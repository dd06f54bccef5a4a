import SdioWlan.Proofs.Path
import SdioWlan.Proofs.Reading.Intact

namespace SdioWlan

namespace DataPort

def round (p : DataPort) : List Nat :=
  (List.range (maxPort - 1)).map fun i ↦ (p.index - 1 + i) % (maxPort - 1) + 1

def others (p : DataPort) : List Nat :=
  (List.range (maxPort - 2)).map fun i ↦ (p.index + i) % (maxPort - 1) + 1

theorem round_eq_cons (p : DataPort) : p.round = p.index :: p.others := by
  have h₁ := p.one_le
  have h₂ := p.lt_maxPort
  simp only [maxPort] at h₂
  have hr : List.range 15 = 0 :: (List.range 14).map Nat.succ := List.range_succ_eq_map
  simp only [round, others, maxPort, hr, List.map_cons, List.map_map, List.cons.injEq]
  constructor
  · omega
  · apply List.map_congr_left
    intro i _
    simp only [Function.comp, Nat.succ_eq_add_one]
    omega

theorem index_next (p : DataPort) : (p.next maxPort).index = p.index % (maxPort - 1) + 1 :=
  index_next_of_lt p.lt_maxPort (Nat.le_refl maxPort)

theorem round_next (p : DataPort) : (p.next maxPort).round = p.others ++ [p.index] := by
  have h₁ := p.one_le
  have h₂ := p.lt_maxPort
  have hn := p.index_next
  have hr : List.range 15 = List.range 14 ++ [14] := List.range_succ
  simp only [maxPort] at h₂ hn
  simp only [round, hn, others, maxPort, hr, List.map_append, List.map_cons, List.map_nil]
  congr 1
  · apply List.map_congr_left
    intro i _
    omega
  · rw [List.singleton_inj]
    omega

theorem mem_others {p : DataPort} {q : Nat} (h : q ∈ p.others) : q ≠ p.index ∧ q ≠ controlPort := by
  have h₁ := p.one_le
  have h₂ := p.lt_maxPort
  obtain ⟨i, hi, rfl⟩ := List.mem_map.mp h
  have hi := List.mem_range.mp hi
  simp only [maxPort] at h₂ hi
  simp only [maxPort, controlPort]
  omega

theorem mem_round {p : DataPort} {q : Nat} (h : q ∈ p.round) : q ≠ controlPort := by
  have h₁ := p.one_le
  rw [round_eq_cons] at h
  rcases List.mem_cons.mp h with rfl | h
  · simp only [controlPort]
    omega
  · exact (mem_others h).2

end DataPort

theorem takeWhile_congr {p q : Nat → Bool} {l : List Nat} (h : ∀ x ∈ l, p x = q x) :
    l.takeWhile p = l.takeWhile q := by
  induction l with
  | nil => rfl
  | cons x l ih =>
    simp only [List.takeWhile_cons, h x List.mem_cons_self,
      ih fun y hy ↦ h y (List.mem_cons_of_mem x hy)]

namespace PortSet

/-- The ports that a pass visits: the control port if it has a frame, and then the data ports, from
the one that comes next to the first that has none. -/
def visits (readable : PortSet) (next : DataPort) : List Nat :=
  (if readable.contains controlPort then [controlPort] else []) ++
    next.round.takeWhile readable.contains

theorem length_visits (readable : PortSet) (next : DataPort) :
    (readable.visits next).length ≤ maxPort := by
  have ht : (next.round.takeWhile readable.contains).length ≤ 15 := by
    refine Nat.le_trans (List.takeWhile_prefix _).length_le (Nat.le_of_eq ?_)
    rw [DataPort.round, List.length_map, List.length_range, maxPort]
  have hc : (if readable.contains controlPort then [controlPort] else []).length ≤ 1 := by
    split <;> simp
  rw [visits, List.length_append, maxPort]
  omega

theorem visits_control {readable : PortSet} (h : readable.contains controlPort) (next : DataPort) :
    readable.visits next = controlPort :: (readable.erase controlPort).visits next := by
  have ht : next.round.takeWhile readable.contains =
      next.round.takeWhile (readable.erase controlPort).contains := by
    apply takeWhile_congr
    intro q hq
    simp only [contains_erase, ne_eq, DataPort.mem_round hq, not_false_eq_true, decide_true,
      Bool.and_true]
  have he : (readable.erase controlPort).contains controlPort = false := by
    simp only [contains_erase, ne_eq, not_true_eq_false, decide_false, Bool.and_false]
  simp only [visits, h, if_true, he, Bool.false_eq_true, if_false, ht, List.nil_append,
    List.singleton_append]

theorem visits_data {readable : PortSet} {next : DataPort}
    (h₀ : readable.contains controlPort = false) (h : readable.contains next.index) :
    readable.visits next =
      next.index :: (readable.erase next.index).visits (next.next maxPort) := by
  have he : (readable.erase next.index).contains next.index = false := by
    simp only [contains_erase, ne_eq, not_true_eq_false, decide_false, Bool.and_false]
  have he₀ : (readable.erase next.index).contains controlPort = false := by
    simp only [contains_erase, h₀, Bool.false_and]
  have ht : next.others.takeWhile readable.contains =
      next.others.takeWhile (readable.erase next.index).contains := by
    apply takeWhile_congr
    intro q hq
    simp only [contains_erase, ne_eq, (DataPort.mem_others hq).1, not_false_eq_true, decide_true,
      Bool.and_true]
  -- The port that has had its turn comes last in the next round, where it has no frame.
  have hs : (next.others ++ [next.index]).takeWhile (readable.erase next.index).contains =
      next.others.takeWhile (readable.erase next.index).contains := by
    rw [List.takeWhile_append]
    split
    · rename_i hl
      rw [List.takeWhile_cons, he, (List.takeWhile_prefix _).eq_of_length hl]
      simp
    · rfl
  simp only [visits, h₀, he₀, Bool.false_eq_true, if_false, List.nil_append, next.round_next,
    next.round_eq_cons, List.takeWhile_cons, h, if_true, hs, ht]

theorem visits_nil {readable : PortSet} {next : DataPort}
    (h₀ : readable.contains controlPort = false) (h : readable.contains next.index = false) :
    readable.visits next = [] := by
  simp only [visits, h₀, Bool.false_eq_true, if_false, List.nil_append, DataPort.round_eq_cons,
    List.takeWhile_cons, h]

end PortSet

namespace PortAllocator

variable {a b : PortAllocator} {port : Nat}

theorem visits_of_none (h : a.nextReadable? = none) : a.readable.visits a.nextRead = [] := by
  unfold nextReadable? at h
  split at h
  · cases h
  rename_i h₀
  split at h
  · cases h
  rename_i hp
  exact PortSet.visits_nil (by simpa using h₀) (by simpa using hp)

theorem visits_of_some (h : a.nextReadable? = some (port, b)) :
    a.readable.visits a.nextRead = port :: b.readable.visits b.nextRead := by
  unfold nextReadable? at h
  split at h
  · rename_i h₀
    cases h
    exact PortSet.visits_control h₀ _
  rename_i h₀
  split at h
  · rename_i hp
    cases h
    exact PortSet.visits_data (by simpa using h₀) hp
  · cases h

end PortAllocator

def Fetch.action (f : Fetch) : Action := .access (.readBlock f.address .fifo f.size f.outcome)

namespace Snapshot

def fetch (m : Snapshot) (base : UInt32) (port : Nat) (outcome : Except Errno Bytes) : Fetch :=
  ⟨portAddress base port, (m.frameLength port).toNat, outcome⟩

def Fits (m : Snapshot) (port : Nat) : Prop :=
  frameHeaderSize ≤ (m.frameLength port).toNat ∧ (m.frameLength port).toNat ≤ maxFrame

end Snapshot

def Driver.besidesPorts (d : Driver) : Driver := { d with ports := {} }

namespace Session

variable {σ : Type}

/-- The frames that are fetched on the way from one state to another, in their order. -/
def Fetches (s t : Session σ) (l : List Fetch) : Prop :=
  ∃ k, t.link.past = k ++ s.link.past ∧ k.reverse.filterMap Action.fetch? = l

theorem Fetches.append {s t u : Session σ} {l m : List Fetch} (h : Fetches s t l)
    (h' : Fetches t u m) : Fetches s u (l ++ m) := by
  obtain ⟨j, hj, rfl⟩ := h
  obtain ⟨k, hk, rfl⟩ := h'
  refine ⟨k ++ j, ?_, ?_⟩
  · rw [hk, hj, List.append_assoc]
  · rw [List.reverse_append, List.filterMap_append]

theorem Intact.fetches {s t : Session σ} (h : Intact s t) : Fetches s t [] := by
  obtain ⟨-, k, hk, hl⟩ := h
  refine ⟨k, hk, List.filterMap_eq_nil_iff.mpr fun a ha ↦ hl a (List.mem_reverse.mp ha)⟩

structure Fetching (s : Session σ) (f : Fetch) (t : Session σ) : Prop where
  kept : t.driver.besidesPorts = s.driver.besidesPorts
  past : t.link.past = f.action :: s.link.past

theorem Fetching.fetches {s t : Session σ} {f : Fetch} (h : Fetching s f t) : Fetches s t [f] :=
  ⟨[f.action], h.past, rfl⟩

theorem onLink_adapt_apply {α : Type} (f : Errno → DriverError) (w : Link.Transfer σ α)
    (s : Session σ) :
    onLink (ExceptT.adapt f w) s = ((w s.link).1.mapError f, ⟨s.driver, (w s.link).2⟩) := rfl

/-- An interrupt is opened: the registers are read in one block of 64 bytes, and what was read is
acknowledged. -/
inductive Opens (l m : Link σ) : Except DriverError Snapshot → Prop
  | unread {e : Errno}
      (hm : m.past = .access (.readBlock Register.block .incrementing 64 (.error e)) :: l.past) :
      Opens l m (.error .interruptStatus)
  | unacknowledged {r : Snapshot} {e : Errno}
      (hm : m.past = .access (.writeByte Register.interruptStatus
          (r.interrupts &&& ~~~uploadInterrupt) (.error e)) ::
        .access (.readBlock Register.block .incrementing 64 (.ok r.bytes)) :: l.past) :
      Opens l m (.error .interruptStatus)
  | opened {r : Snapshot}
      (hm : m.past = .access (.writeByte Register.interruptStatus
          (r.interrupts &&& ~~~uploadInterrupt) (.ok ())) ::
        .access (.readBlock Register.block .incrementing 64 (.ok r.bytes)) :: l.past) :
      Opens l m (.ok r)

theorem Opens.logs {l m : Link σ} {o : Except DriverError Snapshot} (h : Opens l m o) :
    Logs (fun a ↦ a.IsAccess ∧ a.NoFetch) l m := by
  cases h with
  | unread hm => exact ⟨[_], hm, List.forall_mem_singleton.mpr ⟨⟨_, rfl⟩, rfl⟩⟩
  | unacknowledged hm | opened hm =>
    refine ⟨[_, _], hm, List.forall_mem_cons.mpr ⟨⟨⟨_, rfl⟩, rfl⟩, ?_⟩⟩
    exact List.forall_mem_singleton.mpr ⟨⟨_, rfl⟩, rfl⟩

variable [Platform σ]

/-- A pass over the ports `ports`, from a state to a state: what is fetched on the way, and how the
pass ends. Each frame is dealt with before the next one is fetched. -/
inductive Pass (m : Snapshot) (base : UInt32) :
    List Nat → Session σ → List Fetch → Except DriverError Unit → Session σ → Prop
  | finished {s : Session σ} : Pass m base [] s [] (.ok ()) s
  | misfit {port : Nat} {rest : List Nat} {s t : Session σ} (h : ¬ m.Fits port)
      (hk : t.driver.besidesPorts = s.driver.besidesPorts) (ht : t.link = s.link) :
      Pass m base (port :: rest) s [] (.error .receive) t
  | unread {port : Nat} {rest : List Nat} {s t : Session σ} {e : Errno} (h : m.Fits port)
      (hf : Fetching s (m.fetch base port (.error e)) t) :
      Pass m base (port :: rest) s [m.fetch base port (.error e)] (.error .receive) t
  | failed {port : Nat} {rest : List Nat} {s t u : Session σ} {frame : Bytes} {e : DriverError}
      (h : m.Fits port) (hf : Fetching s (m.fetch base port (.ok frame)) t)
      (hr : receive frame t = (.error e, u)) :
      Pass m base (port :: rest) s [m.fetch base port (.ok frame)] (.error e) u
  | handled {port : Nat} {rest : List Nat} {s t u v : Session σ} {frame : Bytes}
      {l : List Fetch} {o : Except DriverError Unit} (h : m.Fits port)
      (hf : Fetching s (m.fetch base port (.ok frame)) t) (hr : receive frame t = (.ok (), u))
      (hp : Pass m base rest u l o v) :
      Pass m base (port :: rest) s (m.fetch base port (.ok frame) :: l) o v

namespace Pass

variable {m : Snapshot} {base : UInt32} {ports : List Nat} {s t : Session σ} {l : List Fetch}
  {o : Except DriverError Unit}

/-- Nothing else is fetched: not by dealing with the frames either. -/
theorem fetches (h : Pass m base ports s l o t) : Fetches s t l := by
  induction h with
  | finished => exact ⟨[], rfl, rfl⟩
  | misfit h hk ht => exact ⟨[], by rw [ht]; rfl, rfl⟩
  | unread h hf => exact hf.fetches
  | @failed port rest s t u frame e h hf hr =>
    have hi := receive_intact frame t
    rw [hr] at hi
    exact hf.fetches.append hi.fetches
  | @handled port rest s t u v frame l o h hf hr hp ih =>
    have hi := receive_intact frame t
    rw [hr] at hi
    exact (hf.fetches.append hi.fetches).append ih

theorem places (h : Pass m base ports s l o t) :
    l.map (fun f ↦ (f.address, f.size)) <+:
      ports.map fun p ↦ (portAddress base p, (m.frameLength p).toNat) := by
  induction h with
  | finished => exact List.prefix_refl _
  | misfit h hk ht => exact List.nil_prefix
  | unread h hf | failed h hf hr => exact List.cons_prefix_cons.mpr ⟨rfl, List.nil_prefix⟩
  | handled h hf hr hp ih => exact List.cons_prefix_cons.mpr ⟨rfl, ih⟩

theorem complete (h : Pass m base ports s l o t) (ho : o = .ok ()) : l.length = ports.length := by
  induction h with
  | finished => rfl
  | misfit | unread | failed => cases ho
  | handled h hf hr hp ih => rw [List.length_cons, List.length_cons, ih ho]

end Pass

theorem readFrame_of_not_fits {m : Snapshot} {port : Nat} (h : ¬ m.Fits port) (s : Session σ) :
    readFrame m port s = (.error .receive, s) := by
  have hn : (m.frameLength port).toNat < frameHeaderSize ∨
      maxFrame < (m.frameLength port).toNat := by
    unfold Snapshot.Fits at h
    omega
  simp only [readFrame, if_pos hn, throw_apply]

theorem readFrame_of_fits {m : Snapshot} {port : Nat} (h : m.Fits port) (s : Session σ) :
    ∃ o t, readFrame m port s = (o.mapError fun _ ↦ .receive, t) ∧ t.driver = s.driver ∧
      t.link.past = (m.fetch s.driver.base port o).action :: s.link.past := by
  have hn : ¬ ((m.frameLength port).toNat < frameHeaderSize ∨
      maxFrame < (m.frameLength port).toNat) := by
    unfold Snapshot.Fits at h
    omega
  simp only [readFrame, if_neg hn, bind_apply, view_apply]
  exact ⟨_, _, rfl, rfl, rfl⟩

theorem drain_pass (m : Snapshot) (n : Nat) (s : Session σ)
    (h : (s.driver.ports.readable.visits s.driver.ports.nextRead).length ≤ n) :
    ∃ l, Pass m s.driver.base (s.driver.ports.readable.visits s.driver.ports.nextRead) s l
      (drain m n s).1 (drain m n s).2 := by
  induction n generalizing s with
  | zero =>
    rw [List.length_eq_zero_iff.mp (Nat.le_zero.mp h)]
    exact ⟨[], .finished⟩
  | succ n ih =>
    simp only [drain, bind_apply, view_apply]
    cases hn : s.driver.ports.nextReadable? with
    | none =>
      rw [PortAllocator.visits_of_none hn]
      exact ⟨[], .finished⟩
    | some next =>
      obtain ⟨port, ports⟩ := next
      rw [PortAllocator.visits_of_some hn] at h ⊢
      simp only [bind_apply, update_apply]
      by_cases hf : m.Fits port
      · obtain ⟨o, t, ho, hd, hp⟩ := readFrame_of_fits hf ⟨{ s.driver with ports }, s.link⟩
        rw [ho]
        have hg : Fetching s (m.fetch s.driver.base port o) t := ⟨by rw [hd]; rfl, hp⟩
        cases o with
        | error e => exact ⟨_, .unread hf hg⟩
        | ok frame =>
          have hi := receive_intact frame t
          simp only [Except.mapError]
          rcases hr : receive frame t with ⟨e | _, u⟩
          · exact ⟨_, .failed hf hg hr⟩
          · rw [hr] at hi
            have hu : u.driver.intake = ⟨s.driver.base, ports.readable, ports.nextRead⟩ :=
              hi.kept.trans (by rw [hd]; rfl)
            obtain ⟨hb, hw, hx⟩ := Intake.mk.inj hu
            obtain ⟨l, hp⟩ := ih u (by rw [hw, hx]; exact Nat.le_of_succ_le_succ h)
            rw [hb, hw, hx] at hp
            exact ⟨_, .handled hf hg hr hp⟩
      · rw [readFrame_of_not_fits hf]
        exact ⟨[], .misfit hf rfl rfl⟩

theorem read_past (l : Link σ) : (Snapshot.read l).2.past =
    .access (.readBlock Register.block .incrementing 64 ((Snapshot.read l).1.map (·.bytes))) ::
      l.past := by
  have hp : (Link.readBlock Register.block .incrementing Snapshot.size l).2.past =
      .access (.readBlock Register.block .incrementing 64
        (Link.readBlock Register.block .incrementing Snapshot.size l).1) :: l.past := rfl
  simp only [Snapshot.read, work_bind_apply]
  rcases hr : (Link.readBlock Register.block .incrementing Snapshot.size : Link.Transfer σ Bytes) l
    with ⟨e | bytes, m⟩
  all_goals
    rw [hr] at hp
    exact hp

theorem openInterrupt_apply (s : Session σ) :
    Opens s.link (openInterrupt s).2.link (openInterrupt s).1 ∧
      match openInterrupt s with
      | (.error e, t) => e = .interruptStatus ∧ t.driver = s.driver
      | (.ok m, t) =>
        t.driver = { s.driver with ports := s.driver.ports.refresh m.readable m.writable } := by
  have hr := read_past s.link
  simp only [openInterrupt, bind_apply, onLink_adapt_apply]
  rcases he : (Snapshot.read : Link.Transfer σ Snapshot) s.link with ⟨e | m, l⟩
  · rw [he] at hr
    exact ⟨.unread hr, rfl, rfl⟩
  rw [he] at hr
  have hc : (m.clearUpload l).2.past = .access (.writeByte Register.interruptStatus
      (m.interrupts &&& ~~~uploadInterrupt) (m.clearUpload l).1) :: l.past := rfl
  rw [hr] at hc
  simp only [Except.mapError]
  rcases hk : (m.clearUpload : Link.Transfer σ Unit) l with ⟨e | _, k⟩
  · rw [hk] at hc
    exact ⟨.unacknowledged hc, rfl, rfl⟩
  · rw [hk] at hc
    exact ⟨.opened hc, rfl⟩

/-- What an interrupt makes the driver fetch. If the registers can be read and the interrupt
acknowledged, it is a pass over the ports that the registers and the next port to be read call for,
and over no more than there are; otherwise nothing is fetched and the driver is as before. -/
theorem interrupt_fetches (s : Session σ) :
    Opens s.link (openInterrupt s).2.link (openInterrupt s).1 ∧
    match openInterrupt s with
    | (.error _, t) =>
      serviceInterrupt s = (.error .interruptStatus, t) ∧ t.driver = s.driver ∧
        Logs (fun a ↦ a.IsAccess ∧ a.NoFetch) s.link t.link
    | (.ok m, t) =>
      let ports := PortSet.visits m.readable.toBitVec s.driver.ports.nextRead
      let place := fun p ↦ (portAddress s.driver.base p, (m.frameLength p).toNat)
      t.driver = { s.driver with ports := s.driver.ports.refresh m.readable m.writable } ∧
      ∃ l, Pass m s.driver.base ports t l (serviceInterrupt s).1 (serviceInterrupt s).2 ∧
        Fetches s (serviceInterrupt s).2 l ∧
        l.map (fun f ↦ (f.address, f.size)) <+: ports.map place ∧
        ((serviceInterrupt s).1 = .ok () → l.map (fun f ↦ (f.address, f.size)) = ports.map place) ∧
        l.length ≤ maxPort := by
  have hs : serviceInterrupt s = _ := congrFun serviceInterrupt_eq s
  obtain ⟨ho, hd⟩ := openInterrupt_apply s
  refine ⟨ho, ?_⟩
  have hl := ho.logs
  rw [bind_apply] at hs
  rw [hs]
  rcases he : openInterrupt s with ⟨e | m, t⟩
  · rw [he] at hd hl
    obtain ⟨rfl, hd⟩ := hd
    exact ⟨rfl, hd, hl⟩
  · rw [he] at hd hl
    obtain ⟨k, hk, hl⟩ := hl
    obtain ⟨l, hp⟩ := drain_pass m maxPort t (PortSet.length_visits _ _)
    simp only [hd] at hp
    have hf : Fetches s t [] := ⟨k, hk, List.filterMap_eq_nil_iff.mpr fun a ha ↦
      (hl a (List.mem_reverse.mp ha)).2⟩
    have hn : l.length ≤ maxPort := by
      have hl := hp.places.length_le
      simp only [List.length_map] at hl
      exact Nat.le_trans hl (PortSet.length_visits _ _)
    refine ⟨hd, l, hp, hf.append hp.fetches, hp.places, fun ho ↦ ?_, hn⟩
    apply hp.places.eq_of_length
    simp only [List.length_map, hp.complete ho]

end Session

end SdioWlan
