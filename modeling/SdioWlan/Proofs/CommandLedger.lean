import Mathlib.Data.List.Induction
import SdioWlan.Proofs.Station.Basic

namespace SdioWlan

/-- At some place of a list `p` holds, and `q` at every later one. -/
def Since {α : Type} (p q : α → Prop) (l : List α) : Prop :=
  ∃ pre a post, l = pre ++ a :: post ∧ p a ∧ ∀ b ∈ post, q b

namespace Since

variable {α : Type} {p q : α → Prop} {l : List α} {a : α}

theorem not_nil : ¬ Since p q ([] : List α) := by
  intro h
  obtain ⟨pre, a, post, he, -, -⟩ := h
  exact List.append_ne_nil_of_right_ne_nil pre (List.cons_ne_nil a post) he.symm

theorem concat_iff : Since p q (l ++ [a]) ↔ p a ∨ q a ∧ Since p q l := by
  constructor
  · intro h
    obtain ⟨pre, b, post, he, hp, hq⟩ := h
    cases post using List.reverseRecOn with
    | nil =>
      obtain ⟨-, hb⟩ := List.append_inj' he rfl
      cases hb
      exact .inl hp
    | append_singleton post c _ =>
      rw [← List.cons_append, ← List.append_assoc] at he
      obtain ⟨rfl, hc⟩ := List.append_inj' he rfl
      cases hc
      refine .inr ⟨hq a (by simp), pre, b, post, rfl, hp, ?_⟩
      intro d hd
      exact hq d (List.mem_append_left [a] hd)
  · intro h
    rcases h with hp | ⟨hq, pre, b, post, rfl, hp, hpost⟩
    · exact ⟨l, a, [], rfl, hp, fun b hb ↦ (by cases hb)⟩
    · refine ⟨pre, b, post ++ [a], by rw [List.append_assoc, List.cons_append], hp, ?_⟩
      intro c hc
      rcases List.mem_append.mp hc with hc | hc
      · exact hpost c hc
      · rw [List.mem_singleton.mp hc]
        exact hq

end Since

namespace CommandChannel

/-- What can be done with a channel. A command may be interrupted by others that want to be sent
while it is, each by somebody who takes the ports to start at some address. -/
inductive Use
  | send (base : UInt32) (c : Command) (others : List (UInt32 × Command))
  | respond (id : CommandId)
  | stage (c : Command)
  | takeStaged
  | clearStaged
  deriving DecidableEq

inductive Answer
  | sent (outcome : Except DriverError Unit) (others : Option (List (Except DriverError Unit)))
  | responded (expected : Bool)
  | taken (c : Option Command)
  | done
  deriving DecidableEq

structure Dealing where
  use : Use
  answer : Answer
  before : CommandChannel
  after : CommandChannel
  actions : List Action
  deriving DecidableEq

variable {σ : Type} [Platform σ]

def Use.apply : Use → StateM (CommandChannel × Link σ) Answer
  | .send base c others => fun s ↦
    let r := sendDuring base c (others.mapM fun d ↦ (CommandChannel.send d.1 d.2).run) s
    (.sent r.1.1 r.1.2, r.2)
  | .respond id => fun s ↦ (.responded (s.1.respond id).1, ((s.1.respond id).2, s.2))
  | .stage c => fun s ↦ (.done, (s.1.stage c, s.2))
  | .takeStaged => fun s ↦ (.taken s.1.staged, (s.1.clearStaged, s.2))
  | .clearStaged => fun s ↦ (.done, (s.1.clearStaged, s.2))

def deal (u : Use) (ch : CommandChannel) (device : σ) : Dealing × σ :=
  let r := u.apply (ch, ⟨device, []⟩)
  (⟨u, r.1, ch, r.2.1, r.2.2.past⟩, r.2.2.device)

def deals : List Use → CommandChannel → σ → List Dealing × CommandChannel
  | [], ch, _ => ([], ch)
  | u :: us, ch, device =>
    let r := deal u ch device
    let t := deals us r.1.after r.2
    (r.1 :: t.1, t.2)

theorem send_of_held {ch : CommandChannel} (h : ch.held = true) (base : UInt32) (c : Command)
    (link : Link σ) : (send base c).run (ch, link) = (.error .busy, (ch, link)) := by
  show send base c (ch, link) = _
  simp only [send, sendDuring, acquire, h, if_true]

theorem mapM_send_of_held {ch : CommandChannel} (h : ch.held = true)
    (others : List (UInt32 × Command)) (link : Link σ) :
    (others.mapM fun d ↦ (send d.1 d.2).run : StateM (CommandChannel × Link σ) _) (ch, link) =
      (others.map fun _ ↦ .error .busy, (ch, link)) := by
  induction others with
  | nil => rfl
  | cons d others ih =>
    have hd := send_of_held h d.1 d.2 link
    rw [List.mapM_cons, List.map_cons]
    simp only [bind, StateT.bind, hd, ih]
    rfl

namespace Dealing

/-- How a use of a channel that nobody holds can go. Sending is one write of the command's frame to
the control port, whoever else wants to send in the meantime. -/
inductive Proper : Dealing → Prop
  | sent {base : UInt32} {c : Command} {others : List (UInt32 × Command)} {ch : CommandChannel} :
    Proper ⟨.send base c others, .sent (.ok ()) (some (others.map fun _ ↦ .error .busy)), ch,
      { ch with buffer := c.frame, inFlight := some c.id, sent := ch.sent + 1 },
      [c.written base (.ok ())]⟩
  | failed {base : UInt32} {c : Command} {others : List (UInt32 × Command)} {ch : CommandChannel}
      {e : Errno} :
    Proper ⟨.send base c others,
      .sent (.error (.transfer e)) (some (others.map fun _ ↦ .error .busy)), ch,
      { ch with buffer := c.frame }, [c.written base (.error e)]⟩
  | responded {id : CommandId} {ch : CommandChannel} :
    Proper ⟨.respond id, .responded (ch.inFlight == some id), ch, { ch with inFlight := none }, []⟩
  | staged {c : Command} {ch : CommandChannel} :
    Proper ⟨.stage c, .done, ch, { ch with staged := some c }, []⟩
  | taken {ch : CommandChannel} :
    Proper ⟨.takeStaged, .taken ch.staged, ch, { ch with staged := none }, []⟩
  | cleared {ch : CommandChannel} :
    Proper ⟨.clearStaged, .done, ch, { ch with staged := none }, []⟩

def sent? (d : Dealing) : Option CommandId :=
  match d.use, d.answer with
  | .send _ c _, .sent (.ok ()) _ => some c.id
  | _, _ => none

def KeepsInFlight (d : Dealing) : Prop := d.sent? = none ∧ ∀ id, d.use ≠ .respond id

def KeepsStaged (d : Dealing) : Prop :=
  d.use ≠ .takeStaged ∧ d.use ≠ .clearStaged ∧ ∀ c, d.use ≠ .stage c

end Dealing

/-- A channel as its history says it is. -/
structure Balanced (history : List Dealing) (ch : CommandChannel) : Prop where
  held : ch.held = false
  sent : ch.sent = UInt32.ofNat (history.countP fun d ↦ d.sent?.isSome)
  inFlight : ∀ id, ch.inFlight = some id ↔
    Since (fun d ↦ d.sent? = some id) Dealing.KeepsInFlight history
  staged : ∀ c, ch.staged = some c ↔
    Since (fun d ↦ d.use = .stage c) Dealing.KeepsStaged history

theorem deal_send {ch : CommandChannel} (h : ch.held = false) (base : UInt32) (c : Command)
    (others : List (UInt32 × Command)) (device : σ) :
    ∃ o, (deal (.send base c others) ch device).1 = ⟨.send base c others,
      .sent (o.mapError .transfer) (some (others.map fun _ ↦ .error .busy)), ch,
      { ch with buffer := c.frame }.release c.id o, [c.written base o]⟩ := by
  let taken : CommandChannel := { ch with held := true, buffer := c.frame }
  have ht : taken.held = true := rfl
  have hm := mapM_send_of_held ht others (⟨device, []⟩ : Link σ)
  simp only [taken] at hm
  simp only [deal, Use.apply, sendDuring, acquire_of_not_held h, hm]
  exact ⟨_, rfl⟩

theorem deal_proper {ch : CommandChannel} (h : ch.held = false) (u : Use) (device : σ) :
    (deal u ch device).1.Proper := by
  cases u with
  | send base c others =>
    obtain ⟨o, ho⟩ := deal_send h base c others device
    rw [ho]
    cases o with
    | ok u =>
      have hs : { ch with buffer := c.frame }.release c.id (.ok u) =
          { ch with buffer := c.frame, inFlight := some c.id, sent := ch.sent + 1 } := by
        rw [release, ← h]
      rw [hs]
      exact .sent
    | error e =>
      have hf : { ch with buffer := c.frame }.release c.id (.error e) =
          { ch with buffer := c.frame } := by
        rw [release, ← h]
      rw [hf]
      exact .failed
  | respond id => exact .responded
  | stage c => exact .staged
  | takeStaged => exact .taken
  | clearStaged => exact .cleared

namespace Dealing.Proper

variable {d : Dealing}

theorem held_after (h : d.Proper) : d.after.held = d.before.held := by
  cases h <;> rfl

theorem sent_after (h : d.Proper) :
    d.after.sent = d.before.sent + if d.sent?.isSome then 1 else 0 := by
  cases h with
  | sent => rfl
  | _ => exact (UInt32.add_zero _).symm

theorem inFlight_after (h : d.Proper) (id : CommandId) : d.after.inFlight = some id ↔
    d.sent? = some id ∨ d.KeepsInFlight ∧ d.before.inFlight = some id := by
  cases h with
  | _ => simp [sent?, KeepsInFlight]

theorem staged_after (h : d.Proper) (c : Command) : d.after.staged = some c ↔
    d.use = .stage c ∨ d.KeepsStaged ∧ d.before.staged = some c := by
  cases h with
  | _ => simp [KeepsStaged]

end Dealing.Proper

theorem Balanced.nil : Balanced [] {} where
  held := rfl
  sent := rfl
  inFlight id := iff_of_false (fun h ↦ (by cases h)) Since.not_nil
  staged c := iff_of_false (fun h ↦ (by cases h)) Since.not_nil

/-- A use of a channel changes it as it changes the history. -/
theorem Balanced.concat {history : List Dealing} {d : Dealing}
    (h : Balanced history d.before) (hd : d.Proper) : Balanced (history ++ [d]) d.after where
  held := hd.held_after.trans h.held
  sent := by
    rw [hd.sent_after, h.sent, List.countP_append, List.countP_singleton, UInt32.ofNat_add]
    split <;> rfl
  inFlight id := by
    rw [hd.inFlight_after, Since.concat_iff, h.inFlight]
  staged c := by
    rw [hd.staged_after, Since.concat_iff, h.staged]

/-- Whatever is done with a channel, each use finds it balanced and is done properly. -/
theorem Balanced.deals {history : List Dealing} {ch : CommandChannel} (h : Balanced history ch)
    (us : List Use) (device : σ) :
    Balanced (history ++ (deals us ch device).1) (deals us ch device).2 ∧
      ∀ pre d post, (CommandChannel.deals us ch device).1 = pre ++ d :: post →
        Balanced (history ++ pre) d.before ∧ d.Proper := by
  induction us generalizing history ch device with
  | nil =>
    refine ⟨by rw [CommandChannel.deals, List.append_nil]; exact h, ?_⟩
    intro pre d post he
    cases pre <;> cases he
  | cons u us ih =>
    have hd : (deal u ch device).1.Proper := deal_proper h.held u device
    have hu : Balanced (history ++ [(deal u ch device).1]) (deal u ch device).1.after :=
      h.concat hd
    obtain ⟨hlast, hall⟩ := ih hu (deal u ch device).2
    rw [List.append_assoc] at hlast
    refine ⟨hlast, ?_⟩
    intro pre d post he
    cases pre with
    | nil =>
      obtain ⟨rfl, -⟩ := List.cons.inj he
      rw [List.append_nil]
      exact ⟨h, hd⟩
    | cons p pre =>
      obtain ⟨rfl, hrest⟩ := List.cons.inj he
      have hp := hall pre d post hrest
      rw [List.append_assoc] at hp
      exact hp

/-- The books of a channel are always in order. Each use of it, whatever came before, is done
properly: a command is one write of its serialization, and those who want to send while it is
written are turned away without a trace. -/
theorem uses_balanced (us : List Use) (device : σ) (base : UInt32) (c : Command)
    (ch : CommandChannel) (link : Link σ) (prior : Bytes) :
    let r := deals us {} device
    Balanced r.1 r.2 ∧
      (∀ pre d post, r.1 = pre ++ d :: post → Balanced pre d.before ∧ d.Proper) ∧
      (send base c).run ({ ch with held := true }, link) =
        (.error .busy, ({ ch with held := true }, link)) ∧
      c.writeTo (prior.fit maxFrame) =
        .ok (c.frameLength, c.frame ++ (prior.fit maxFrame).drop c.frameLength) := by
  intro r
  obtain ⟨hlast, hall⟩ := Balanced.nil.deals us device
  have hl : maxFrame ≤ (prior.fit maxFrame).length := Nat.le_of_eq (prior.length_fit maxFrame).symm
  exact ⟨hlast, hall, send_of_held rfl base c link, c.writeTo_of_le hl⟩

end CommandChannel

end SdioWlan
