import Mathlib.Data.List.DropRight
import Mathlib.Data.List.ReduceOption
import SdioWlan.Proofs.Turns.Basic

namespace SdioWlan

inductive Direction
  | read
  | write
  deriving DecidableEq

namespace PortAllocator

inductive Request
  | refresh (readable writable : UInt16)
  | setWritable (writable : UInt16)
  | next (d : Direction)
  deriving DecidableEq

namespace Request

def writable? : Request → Option PortSet
  | refresh _ w | setWritable w => some w.toBitVec
  | next _ => none

/-- What is left of a request for whoever looks at one direction only. -/
def only : Direction → Request → Option Request
  | .read, refresh r _ => some (refresh r 0)
  | .read, setWritable _ => none
  | .write, refresh _ w | .write, setWritable w => some (setWritable w)
  | d, next e => if e = d then some (next e) else none

end Request

structure Served where
  request : Request
  answer : Option Nat
  deriving DecidableEq

namespace Served

def answers (d : Direction) (h : List Served) : List (Option Nat) :=
  (h.filter (·.request = .next d)).map answer

def granted (d : Direction) (h : List Served) : List Nat := (answers d h).reduceOption

def latest (start : PortSet) (h : List Served) : PortSet :=
  (h.filterMap (·.request.writable?)).getLast?.getD start

def sinceLatest (h : List Served) : List Served := h.rtakeWhile (·.request.writable? = none)

theorem answers_cons (d : Direction) (e : Served) (h : List Served) :
    answers d (e :: h) = if e.request = .next d then e.answer :: answers d h else answers d h := by
  by_cases hd : e.request = .next d
  · simp [answers, hd]
  · simp [answers, hd]

theorem granted_append (d : Direction) (h k : List Served) :
    granted d (h ++ k) = granted d h ++ granted d k := by
  simp only [granted, answers, List.filter_append, List.map_append, List.reduceOption_append]

variable {h : List Served} {e : Served} (start : PortSet)

theorem latest_concat_of_none (he : e.request.writable? = none) :
    latest start (h ++ [e]) = latest start h := by
  simp only [latest, List.filterMap_append, List.filterMap_cons, he, List.filterMap_nil,
    List.append_nil]

theorem latest_concat_of_some {w : PortSet} (he : e.request.writable? = some w) :
    latest start (h ++ [e]) = w := by
  simp only [latest, List.filterMap_append, List.filterMap_cons, he, List.filterMap_nil,
    List.getLast?_concat, Option.getD_some]

theorem sinceLatest_concat_of_none (he : e.request.writable? = none) :
    sinceLatest (h ++ [e]) = sinceLatest h ++ [e] :=
  List.rtakeWhile_concat_pos _ _ _ (decide_eq_true he)

theorem sinceLatest_concat_of_some {w : PortSet} (he : e.request.writable? = some w) :
    sinceLatest (h ++ [e]) = [] :=
  List.rtakeWhile_concat_neg _ _ _ (by simp [he])

end Served

open Served

def next? (a : PortAllocator) : Direction → Option (Nat × PortAllocator)
  | .read => a.nextReadable?
  | .write => a.nextWritable?

def serve (a : PortAllocator) : Request → Option Nat × PortAllocator
  | .refresh r w => (none, a.refresh r w)
  | .setWritable w => (none, a.setWritable w)
  | .next d =>
    match a.next? d with
    | none => (none, a)
    | some (port, b) => (some port, b)

def serveAll (a : PortAllocator) : List Request → List Served × PortAllocator
  | [] => ([], a)
  | r :: rest =>
    let x := a.serve r
    let t := x.2.serveAll rest
    (⟨r, x.1⟩ :: t.1, t.2)

theorem serveAll_concat (a : PortAllocator) (rs : List Request) (r : Request) :
    a.serveAll (rs ++ [r]) =
      let t := a.serveAll rs
      (t.1 ++ [⟨r, (t.2.serve r).1⟩], (t.2.serve r).2) := by
  induction rs generalizing a with
  | nil => rfl
  | cons q rs ih =>
    simp only [List.cons_append, serveAll, ih]

/-- Whatever was served was served to the allocator that the requests before it had left. -/
theorem exists_of_serveAll_eq {a : PortAllocator} {rs : List Request} {pre post : List Served}
    {e : Served} (h : (a.serveAll rs).1 = pre ++ e :: post) :
    ∃ rs₁, pre = (a.serveAll rs₁).1 ∧ e.answer = ((a.serveAll rs₁).2.serve e.request).1 := by
  induction pre generalizing a rs with
  | nil =>
    cases rs with
    | nil => cases h
    | cons r rs =>
      obtain ⟨rfl, -⟩ := List.cons.inj h
      exact ⟨[], rfl, rfl⟩
  | cons p pre ih =>
    cases rs with
    | nil => cases h
    | cons r rs =>
      obtain ⟨rfl, ht⟩ := List.cons.inj h
      obtain ⟨rs₁, rfl, he⟩ := ih ht
      exact ⟨r :: rs₁, rfl, he⟩

theorem serve_next_read (a : PortAllocator) :
    a.serve (.next .read) =
      if a.readable.contains controlPort then
        (some controlPort, { a with readable := a.readable.erase controlPort })
      else if a.readable.contains a.nextRead.index then
        (some a.nextRead.index,
          { a with
            readable := a.readable.erase a.nextRead.index
            nextRead := a.nextRead.next maxPort })
      else (none, a) := by
  unfold serve next? nextReadable?
  dsimp only
  by_cases hc : a.readable.contains controlPort
  · rw [if_pos hc, if_pos hc]
  by_cases hr : a.readable.contains a.nextRead.index
  · rw [if_neg hc, if_neg hc, if_pos hr, if_pos hr]
  · rw [if_neg hc, if_neg hc, if_neg hr, if_neg hr]

theorem serve_next_write (a : PortAllocator) :
    a.serve (.next .write) =
      if a.writable.contains a.nextWrite.index then
        (some a.nextWrite.index,
          { a with
            writable := a.writable.erase a.nextWrite.index
            nextWrite := a.nextWrite.next a.writeWrap })
      else (none, a) := by
  unfold serve next? nextWritable?
  dsimp only
  by_cases hw : a.writable.contains a.nextWrite.index
  · rw [if_pos hw, if_pos hw]
  · rw [if_neg hw, if_neg hw]

/-- Nothing has changed when no port is granted. -/
theorem serve_next_of_none {a : PortAllocator} {d : Direction}
    (h : (a.serve (.next d)).1 = none) : (a.serve (.next d)).2 = a := by
  unfold serve at *
  dsimp only at *
  cases hn : a.next? d with
  | none => rfl
  | some next =>
    rw [hn] at h
    cases h

/-- Two allocators that are alike to whoever looks at one direction only. -/
def Agree : Direction → PortAllocator → PortAllocator → Prop
  | .read, a, b => a.readable = b.readable ∧ a.nextRead = b.nextRead
  | .write, a, b => a.writable = b.writable ∧ a.nextWrite = b.nextWrite ∧ a.endPort = b.endPort

namespace Agree

variable {d : Direction} {a b : PortAllocator} {r q : Request}

theorem refl (d : Direction) (a : PortAllocator) : Agree d a a := by
  cases d with
  | read => exact ⟨rfl, rfl⟩
  | write => exact ⟨rfl, rfl, rfl⟩

theorem next_read (a : PortAllocator) : Agree .write (a.serve (.next .read)).2 a := by
  rw [serve_next_read]
  split
  · exact ⟨rfl, rfl, rfl⟩
  · split <;> exact ⟨rfl, rfl, rfl⟩

theorem next_write (a : PortAllocator) : Agree .read (a.serve (.next .write)).2 a := by
  rw [serve_next_write]
  split <;> exact ⟨rfl, rfl⟩

/-- A request of which nothing is left has nothing to do with that direction. -/
theorem apart (hab : Agree d a b) (hr : r.only d = none) : Agree d (a.serve r).2 b := by
  cases d with
  | read =>
    cases r with
    | refresh => cases hr
    | setWritable => exact hab
    | next e =>
      cases e with
      | read => cases hr
      | write =>
        have h := next_write a
        exact ⟨h.1.trans hab.1, h.2.trans hab.2⟩
  | write =>
    cases r with
    | refresh => cases hr
    | setWritable => cases hr
    | next e =>
      cases e with
      | read =>
        have h := next_read a
        exact ⟨h.1.trans hab.1, h.2.1.trans hab.2.1, h.2.2.trans hab.2.2⟩
      | write => cases hr

theorem next (hab : Agree d a b) :
    (a.serve (.next d)).1 = (b.serve (.next d)).1 ∧
      Agree d (a.serve (.next d)).2 (b.serve (.next d)).2 := by
  cases d with
  | read =>
    obtain ⟨hr, hn⟩ := hab
    rw [serve_next_read, serve_next_read, hr, hn]
    split
    · exact ⟨rfl, rfl, rfl⟩
    split
    · exact ⟨rfl, rfl, rfl⟩
    · exact ⟨rfl, hr, hn⟩
  | write =>
    obtain ⟨hw, hn, he⟩ := hab
    have hwrap : a.writeWrap = b.writeWrap := by rw [writeWrap, he, writeWrap]
    rw [serve_next_write, serve_next_write, hw, hn, hwrap]
    split
    · exact ⟨rfl, rfl, rfl, he⟩
    · exact ⟨rfl, hw, hn, he⟩

/-- What is left of a request is answered as the request is. -/
theorem serve (hab : Agree d a b) (hr : r.only d = some q) :
    (a.serve r).1 = (b.serve q).1 ∧ Agree d (a.serve r).2 (b.serve q).2 := by
  cases d with
  | read =>
    cases r with
    | refresh r w =>
      cases hr
      exact ⟨rfl, rfl, hab.2⟩
    | setWritable => cases hr
    | next e =>
      cases e with
      | read =>
        cases hr
        exact hab.next
      | write => cases hr
  | write =>
    cases r with
    | refresh | setWritable =>
      cases hr
      exact ⟨rfl, rfl, hab.2⟩
    | next e =>
      cases e with
      | read => cases hr
      | write =>
        cases hr
        exact hab.next

end Agree

theorem Request.eq_next_iff_of_only {d : Direction} {r q : Request} (h : r.only d = some q) :
    r = .next d ↔ q = .next d := by
  cases r with
  | refresh | setWritable => cases d <;> cases h <;> exact ⟨nofun, nofun⟩
  | next e => cases d <;> cases e <;> cases h <;> exact .rfl

/-- What comes of the requests for one direction does not depend on the other. -/
theorem answers_serveAll {d : Direction} {a b : PortAllocator} (hab : Agree d a b)
    (requests : List Request) :
    answers d (a.serveAll requests).1 =
      answers d (b.serveAll (requests.filterMap (Request.only d))).1 := by
  induction requests generalizing a b with
  | nil => rfl
  | cons r rest ih =>
    cases hr : r.only d with
    | none =>
      have hn : r ≠ .next d := by
        rintro rfl
        simp [Request.only] at hr
      rw [List.filterMap_cons_none hr, serveAll, answers_cons, if_neg hn]
      exact ih (hab.apart hr)
    | some q =>
      obtain ⟨ho, hs⟩ := hab.serve hr
      rw [List.filterMap_cons_some hr, serveAll, serveAll, answers_cons, answers_cons]
      simp only [Request.eq_next_iff_of_only hr, ho, ih hs]

/-- What a history of requests has made of the allocator that they started with. -/
structure Serving (start : PortAllocator) (h : List Served) (a : PortAllocator) : Prop where
  endPort : a.endPort = start.endPort
  inTurn : InTurn (start.writeWrap - 1) (granted .write h)
  next : a.nextWrite.index = (granted .write h).length % (start.writeWrap - 1) + 1
  writable : ∀ p, a.writable.contains p =
    ((latest start.writable h).contains p && decide (p ∉ granted .write (sinceLatest h)))

namespace Serving

variable {start a b : PortAllocator} {h : List Served} {e : Served}

theorem nil (hs : start.nextWrite = .first) : Serving start [] start where
  endPort := rfl
  inTurn := rfl
  next := by
    rw [hs]
    exact congrArg (· + 1) (Nat.zero_mod _).symm
  writable p := by
    have hn : p ∉ granted .write (sinceLatest []) := List.not_mem_nil
    rw [decide_eq_true hn, Bool.and_true]
    rfl

theorem writeWrap (hs : Serving start h a) : a.writeWrap = start.writeWrap := by
  rw [PortAllocator.writeWrap, hs.endPort, PortAllocator.writeWrap]

/-- A request that has no part in writing, or one that is refused. -/
theorem same (hs : Serving start h a) (hb : Agree .write b a) (hw : e.request.writable? = none)
    (he : granted .write [e] = []) : Serving start (h ++ [e]) b := by
  obtain ⟨hb, hn, hp⟩ := hb
  refine ⟨hp.trans hs.endPort, ?_, ?_, fun p ↦ ?_⟩
  · rw [granted_append, he, List.append_nil]
    exact hs.inTurn
  · rw [granted_append, he, List.append_nil, hn]
    exact hs.next
  · rw [latest_concat_of_none _ hw, sinceLatest_concat_of_none hw, granted_append, he,
      List.append_nil, hb]
    exact hs.writable p

/-- The chip says anew which ports can be written to. -/
theorem told {w : PortSet} (hs : Serving start h a) (hw : e.request.writable? = some w)
    (he : granted .write [e] = []) (hb : Agree .write b { a with writable := w }) :
    Serving start (h ++ [e]) b := by
  obtain ⟨hb, hn, hp⟩ := hb
  refine ⟨hp.trans hs.endPort, ?_, ?_, fun p ↦ ?_⟩
  · rw [granted_append, he, List.append_nil]
    exact hs.inTurn
  · rw [granted_append, he, List.append_nil, hn]
    exact hs.next
  · have hp : p ∉ granted .write [] := List.not_mem_nil
    rw [latest_concat_of_some _ hw, sinceLatest_concat_of_some hw, decide_eq_true hp, hb,
      Bool.and_true]

/-- The port whose turn it is, is granted, and the turn goes to the next one. -/
theorem found (hs : Serving start h a) :
    Serving start (h ++ [⟨.next .write, some a.nextWrite.index⟩])
      { a with
        writable := a.writable.erase a.nextWrite.index
        nextWrite := a.nextWrite.next a.writeWrap } := by
  have hg (k : List Served) : granted .write (k ++ [⟨.next .write, some a.nextWrite.index⟩]) =
      granted .write k ++ [a.nextWrite.index] := granted_append _ _ _
  obtain ⟨hw₁, hw₂⟩ := start.writeWrap_mem
  have hlt : a.nextWrite.index < start.writeWrap := by
    have hm := Nat.mod_lt (granted .write h).length (show 0 < start.writeWrap - 1 by omega)
    have hn := hs.next
    omega
  refine ⟨hs.endPort, ?_, ?_, fun p ↦ ?_⟩
  · rw [hg]
    exact inTurn_concat.mpr ⟨hs.inTurn, hs.next⟩
  · rw [hg, hs.writeWrap, DataPort.index_next_of_lt hlt hw₂, List.length_append,
      List.length_singleton, hs.next, Nat.mod_add_mod]
  · rw [latest_concat_of_none _ rfl, sinceLatest_concat_of_none rfl, hg, PortSet.contains_erase,
      hs.writable]
    simp only [List.mem_append, List.mem_singleton, not_or, Bool.decide_and, Bool.and_assoc]

theorem serve (hs : Serving start h a) (r : Request) :
    Serving start (h ++ [⟨r, (a.serve r).1⟩]) (a.serve r).2 := by
  cases r with
  | refresh => exact hs.told rfl rfl ⟨rfl, rfl, rfl⟩
  | setWritable => exact hs.told rfl rfl ⟨rfl, rfl, rfl⟩
  | next d =>
    cases d with
    | read => exact hs.same (.next_read a) rfl rfl
    | write =>
      rw [serve_next_write]
      split
      · exact hs.found
      · exact hs.same (.refl _ a) rfl rfl

theorem serveAll (hs : start.nextWrite = .first) (requests : List Request) :
    Serving start (start.serveAll requests).1 (start.serveAll requests).2 := by
  induction requests using List.reverseRecOn with
  | nil => exact .nil hs
  | append_singleton rs r ih =>
    rw [serveAll_concat]
    exact ih.serve r

/-- The port whose turn it is, is granted if the chip has last said that it can be written to and it
has not been granted since. -/
theorem answer (hs : Serving start h a) :
    (a.serve (.next .write)).1 =
      let port := 1 + (granted .write h).length % (start.writeWrap - 1)
      if (latest start.writable h).contains port ∧ port ∉ granted .write (sinceLatest h)
      then some port else none := by
  have hp : a.nextWrite.index = 1 + (granted .write h).length % (start.writeWrap - 1) := by
    rw [hs.next, Nat.add_comm]
  rw [serve_next_write, ← hp, hs.writable]
  simp only [Bool.and_eq_true, decide_eq_true_eq]
  split <;> rfl

end Serving

/-- However often the chip says which ports have frames and which take some, and in whatever order
ports are asked for in the two directions: with as many data ports as the chip reported, the ports
to write to are granted in turn, each as long as the chip has last said that it can be written to
and it has not been granted since. A request that is refused changes nothing, and what is answered
in one direction does not depend on the other. -/
theorem write_ports_granted (start : PortAllocator) (endPort : UInt16) (requests : List Request)
    (hs : start.nextWrite = .first) :
    let a := { start with endPort }
    let wrap := if 2 ≤ endPort.toNat ∧ endPort.toNat ≤ 16 then endPort.toNat else 16
    let h := (a.serveAll requests).1
    (∀ k (hk : k < (granted .write h).length), (granted .write h)[k] = 1 + k % (wrap - 1)) ∧
      (∀ port ∈ granted .write h, port ≠ controlPort ∧ port < wrap) ∧
      (∀ pre answer post, h = pre ++ ⟨.next .write, answer⟩ :: post →
        let port := 1 + (granted .write pre).length % (wrap - 1)
        answer =
          if (latest start.writable pre).contains port ∧ port ∉ granted .write (sinceLatest pre)
          then some port else none) ∧
      (∀ (b : PortAllocator) d, (b.serve (.next d)).1 = none → (b.serve (.next d)).2 = b) ∧
      ∀ d, answers d h = answers d (a.serveAll (requests.filterMap (Request.only d))).1 := by
  intro a wrap h
  have hw : a.writeWrap = wrap := rfl
  have ha : a.nextWrite = .first := hs
  obtain ⟨hw₁, hw₂⟩ := a.writeWrap_mem
  have hk (k) (hk : k < (granted .write h).length) :
      (granted .write h)[k] = 1 + k % (wrap - 1) := by
    rw [(Serving.serveAll ha requests).inTurn.getElem hk, Nat.add_comm, hw]
  refine ⟨hk, ?_, ?_, fun b d ↦ serve_next_of_none, fun d ↦ answers_serveAll (.refl d a) requests⟩
  · intro port hp
    obtain ⟨k, hl, rfl⟩ := List.mem_iff_getElem.mp hp
    have hm := Nat.mod_lt k (show 0 < wrap - 1 by omega)
    rw [hk k hl]
    exact ⟨by unfold controlPort; omega, by omega⟩
  · intro pre answer post he
    obtain ⟨rs, rfl, hr⟩ := exists_of_serveAll_eq he
    exact hr.trans (Serving.serveAll ha rs).answer

/-- After three ports it is the first one's turn again, which has to wait until it is ready. -/
theorem write_ports_granted_three :
    let requests := [.setWritable 0xFFFE, .next .write, .next .write, .next .write, .next .write,
      .refresh 6 2, .next .read, .next .write]
    let h := (({ endPort := 4 } : PortAllocator).serveAll requests).1
    ({} : PortAllocator).nextWrite = .first ∧
      answers .write h = [some 1, some 2, some 3, none, some 1] ∧
      (∀ port ∈ granted .write h, port ≠ controlPort ∧ port < 4) ∧
      answers .read h = answers .read (({ endPort := 4 } : PortAllocator).serveAll
        [.refresh 6 0, .next .read]).1 := by
  intro requests h
  have hs : ({} : PortAllocator).nextWrite = .first := rfl
  obtain ⟨-, hp, -, -, hd⟩ := write_ports_granted {} 4 requests hs
  exact ⟨hs, by decide, hp, hd .read⟩

end PortAllocator

end SdioWlan
