import SdioWlan.Proofs.Reading.Pass
import SdioWlan.Proofs.Turns.Basic
import SdioWlan.SimulatedChip

namespace SdioWlan

variable {σ : Type}

def Fetch.turn? (base : UInt32) (f : Fetch) : Option Turn :=
  (dataPort? base f.address).map fun p ↦ ⟨p, f.outcome.isOk⟩

namespace Step

def reads (m : Step σ) : List Turn :=
  (m.actions.reverse.filterMap Action.fetch?).filterMap (Fetch.turn? m.before.driver.base)

def readTurn? (m : Step σ) : Option Turn :=
  if m.after.driver.ports.nextRead = m.before.driver.ports.nextRead then none
  else some ⟨m.before.driver.ports.nextRead.index, m.outcome.isOk⟩

/-- A step ends no turn and reads from no data port; or it ends the turn of the port that was to be
read next, and either reads a frame from there or fails. -/
inductive TakesTurn (m : Step σ) : Prop
  | none (hn : m.after.driver.ports.nextRead = m.before.driver.ports.nextRead) (hr : m.reads = [])
  | used (hn : m.after.driver.ports.nextRead = m.before.driver.ports.nextRead.next maxPort)
      (hr : m.reads = [⟨m.before.driver.ports.nextRead.index, true⟩]) (ho : m.outcome = .ok ())
  | missed (hn : m.after.driver.ports.nextRead = m.before.driver.ports.nextRead.next maxPort)
      (hr : m.reads = [] ∨ m.reads = [⟨m.before.driver.ports.nextRead.index, false⟩])
      (ho : m.outcome = .error .receive)

theorem reads_eq {m : Step σ} {l : List Action} (h : m.after.link.past = l ++ m.before.link.past) :
    m.reads = (l.reverse.filterMap Action.fetch?).filterMap (Fetch.turn? m.before.driver.base) := by
  rw [reads, actions_eq h]

theorem reads_of_noFetch {m : Step σ} (h : Logs Action.NoFetch m.before.link m.after.link) :
    m.reads = [] := by
  obtain ⟨k, hk, hl⟩ := h
  have hn : k.reverse.filterMap Action.fetch? = [] :=
    List.filterMap_eq_nil_iff.mpr fun a ha ↦ hl a (List.mem_reverse.mp ha)
  rw [reads_eq hk, hn, List.filterMap_nil]

theorem reads_of_fetch {m : Step σ} {r : Snapshot} {port : Nat} {o : Except Errno Bytes}
    (h : m.after.link.past = (r.fetch m.before.driver.base port o).action :: m.before.link.past) :
    m.reads = ((dataPort? m.before.driver.base (portAddress m.before.driver.base port)).map
      fun p ↦ (⟨p, o.isOk⟩ : Turn)).toList := by
  rw [reads_eq (l := [(r.fetch m.before.driver.base port o).action]) h]
  simp only [List.reverse_singleton, Fetch.action, Action.fetch?, Snapshot.fetch,
    List.filterMap_cons, List.filterMap_nil, Fetch.turn?]
  cases dataPort? m.before.driver.base (portAddress m.before.driver.base port) <;> rfl

end Step

namespace DataPort

theorem next_ne (p : DataPort) : p.next maxPort ≠ p := by
  intro h
  have h₁ := p.one_le
  have h₂ := p.lt_maxPort
  have hn := p.index_next
  simp only [maxPort] at h₂
  rw [h, maxPort] at hn
  omega

end DataPort

namespace Session

abbrev Unread : Session σ → Session σ → Prop :=
  Footprint (fun d ↦ d.ports.nextRead) Action.NoFetch

theorem Intact.unread {s t : Session σ} (h : Intact s t) : Unread s t :=
  ⟨congrArg Intake.nextRead h.kept, h.logged⟩

theorem Unread.takesTurn {m : Step σ} (h : m.before.Unread m.after) : m.TakesTurn :=
  .none h.kept (Step.reads_of_noFetch h.logged)

variable [Platform σ]

/-- Nothing is fetched but for an interrupt. -/
theorem perform_intact {c : Call} (hi : c ≠ .init) (hs : c ≠ .serviceInterrupt) :
    Guarantees Intact (perform c : Act σ Unit) := by
  cases c with
  | sendData payload role => exact intact_relays.sendData payload role
  | _ => exact perform_confined intact_routine.confined (Scope.le_counters _) hi hs (by simp)

theorem powerUp_unread : Guarantees Unread (powerUp : Act σ UInt32) :=
  powerUp_footprint (fun _ _ ↦ rfl) (fun _ _ _ _ ↦ rfl) (fun _ _ _ ↦ rfl) fun _ ↦ rfl

theorem afterPowerUp_unread (base : Except DriverError UInt32) :
    Guarantees Unread (afterPowerUp base : Act σ Unit) := by
  cases base with
  | error e =>
    have hf : Guarantees Intact (do failBoot e; throw e : Act σ Unit) :=
      (failBoot_confined intact_routine.confined e).bind fun _ ↦ .throw e
    exact fun s ↦ (hf s).unread
  | ok base =>
    refine .bind (Footprint.update fun _ ↦ rfl) fun _ s ↦ ?_
    exact (pumpBootstrap_confined intact_routine.confined s).unread

theorem openInterrupt_unread : Guarantees Unread (openInterrupt : Act σ Snapshot) := by
  intro s
  obtain ⟨ho, hd⟩ := openInterrupt_apply s
  obtain ⟨k, hk, hl⟩ := ho.logs
  refine ⟨?_, k, hk, fun a ha ↦ (hl a ha).2⟩
  rcases he : openInterrupt s with ⟨e | m, t⟩
  · rw [he] at hd
    exact congrArg (fun d ↦ d.ports.nextRead) hd.2
  · rw [he] at hd
    exact congrArg (fun d ↦ d.ports.nextRead) hd

theorem fetch_takesTurn (r : Snapshot) (s : Session σ) :
    Step.TakesTurn ⟨.bus, s, (fetch r s).1.map fun _ ↦ (), (fetch r s).2⟩ := by
  simp only [fetch, bind_apply, view_apply]
  cases hn : s.driver.ports.nextReadable? with
  | none => exact .none rfl (Step.reads_of_noFetch (refl_of (Logs _) s.link))
  | some next =>
    obtain ⟨port, ports⟩ := next
    have hp : port = controlPort ∧ ports.nextRead = s.driver.ports.nextRead ∨
        port = s.driver.ports.nextRead.index ∧
          ports.nextRead = s.driver.ports.nextRead.next maxPort := by
      obtain ⟨h, hb⟩ | ⟨h, hb⟩ := PortAllocator.nextReadable?_cases hn
      · exact .inl ⟨h, by rw [hb]⟩
      · exact .inr ⟨h, by rw [hb]⟩
    simp only [bind_apply, update_apply]
    by_cases hf : r.Fits port
    · obtain ⟨o, t, ho, hd, hl⟩ := readFrame_of_fits hf ⟨{ s.driver with ports }, s.link⟩
      have ht : t.driver.ports.nextRead = ports.nextRead := congrArg (·.ports.nextRead) hd
      have hr (o' : Except DriverError Unit) := Step.reads_of_fetch (m := ⟨.bus, s, o', t⟩) hl
      rw [ho]
      obtain ⟨rfl, hp⟩ | ⟨rfl, hp⟩ := hp
      · simp only [dataPort?_control] at hr
        cases o <;> exact .none (ht.trans hp) (hr _)
      · simp only [dataPort?_data] at hr
        cases o with
        | error e => exact .missed (ht.trans hp) (.inr (hr _)) rfl
        | ok frame => exact .used (ht.trans hp) (hr _) rfl
    · rw [readFrame_of_not_fits hf]
      have hr (o : Except DriverError Unit) (ports : PortAllocator) :
          Step.reads ⟨.bus, s, o, ⟨{ s.driver with ports }, s.link⟩⟩ = [] :=
        Step.reads_of_noFetch (refl_of (Logs _) s.link)
      obtain ⟨-, hp⟩ | ⟨-, hp⟩ := hp
      · exact .none hp (hr _ _)
      · exact .missed hp (.inl (hr _ _)) rfl

theorem drainSteps_takesTurn (r : Snapshot) (n : Nat) (s : Session σ) :
    ∀ m ∈ drainSteps r n s, m.TakesTurn := by
  induction n generalizing s with
  | zero => exact fun m hm ↦ by cases hm
  | succ n ih =>
    have hf := fetch_takesTurn r s
    simp only [drainSteps]
    rcases he : fetch r s with ⟨e | _ | f, t⟩
    · rw [he] at hf
      exact List.forall_mem_singleton.mpr hf
    · rw [he] at hf
      exact List.forall_mem_singleton.mpr hf
    · rw [he] at hf
      have hu := (receive_intact f t).unread
      dsimp only
      rcases hr : receive f t with ⟨e | _, u⟩
      · rw [hr] at hu
        exact List.forall_mem_cons.mpr ⟨hf, List.forall_mem_singleton.mpr (Unread.takesTurn hu)⟩
      · rw [hr] at hu
        exact List.forall_mem_cons.mpr
          ⟨hf, List.forall_mem_cons.mpr ⟨Unread.takesTurn hu, ih u⟩⟩

theorem callSteps_takesTurn (c : Call) (s : Session σ) : ∀ m ∈ callSteps c s, m.TakesTurn := by
  have hc (c : Call) (hi : c ≠ .init) (hs : c ≠ .serviceInterrupt) :
      ∀ m ∈ [(⟨.call c, s, (perform c s).1, (perform c s).2⟩ : Step σ)], m.TakesTurn :=
    List.forall_mem_singleton.mpr (Unread.takesTurn (perform_intact hi hs s).unread)
  cases c with
  | init =>
    refine List.forall_mem_cons.mpr ⟨Unread.takesTurn (powerUp_unread s), ?_⟩
    exact List.forall_mem_singleton.mpr (Unread.takesTurn (afterPowerUp_unread _ _))
  | serviceInterrupt =>
    have ho := openInterrupt_unread s
    simp only [callSteps]
    rcases he : openInterrupt s with ⟨e | r, t⟩
    · rw [he] at ho
      exact List.forall_mem_singleton.mpr (Unread.takesTurn ho)
    · rw [he] at ho
      exact List.forall_mem_cons.mpr ⟨Unread.takesTurn ho, drainSteps_takesTurn r maxPort t⟩
  | _ => exact hc _ (by simp) (by simp)

theorem steps_takesTurn (calls : List Call) (s : Session σ) :
    ∀ m ∈ steps calls s, m.TakesTurn := by
  induction calls generalizing s with
  | nil => exact fun m hm ↦ by cases hm
  | cons c rest ih =>
    exact List.forall_mem_append.mpr ⟨callSteps_takesTurn c s, ih _⟩

end Session

namespace Step.TakesTurn

variable {m : Step σ} {t : Turn}

theorem readTurn?_cases (h : m.TakesTurn) :
    (m.readTurn? = Option.none ∧ m.reads = [] ∧
        m.after.driver.ports.nextRead = m.before.driver.ports.nextRead) ∨
      ∃ t, m.readTurn? = some t ∧ t.port = m.before.driver.ports.nextRead.index ∧
        m.after.driver.ports.nextRead = m.before.driver.ports.nextRead.next maxPort ∧
        (m.reads = [t] ∨ m.reads = [] ∧ t.used = false) ∧
        (t.used = false → m.outcome = .error .receive) := by
  have hne (hn : m.after.driver.ports.nextRead = m.before.driver.ports.nextRead.next maxPort) :
      m.after.driver.ports.nextRead ≠ m.before.driver.ports.nextRead :=
    hn ▸ m.before.driver.ports.nextRead.next_ne
  cases h with
  | none hn hr => exact .inl ⟨if_pos hn, hr, hn⟩
  | used hn hr ho =>
    refine .inr ⟨_, if_neg (hne hn), rfl, hn, .inl ?_, fun hu ↦ ?_⟩
    · rw [hr, ho]
      rfl
    · rw [ho] at hu
      cases hu
  | missed hn hr ho =>
    refine .inr ⟨_, if_neg (hne hn), rfl, hn, ?_, fun _ ↦ ho⟩
    rw [ho]
    exact hr.elim (fun hr ↦ .inr ⟨hr, rfl⟩) .inl

end Step.TakesTurn

open Session

structure ReadInTurn (ms : List (Step σ)) (next : DataPort) : Prop where
  upcoming : Turn.Upcoming (maxPort - 1) (ms.filterMap Step.readTurn?) next.index
  reads : Turn.usedPorts (ms.flatMap Step.reads) = Turn.usedPorts (ms.filterMap Step.readTurn?)

theorem ReadInTurn.concat {ms : List (Step σ)} {m : Step σ}
    (h : ReadInTurn ms m.before.driver.ports.nextRead) (hm : m.TakesTurn) :
    ReadInTurn (ms ++ [m]) m.after.driver.ports.nextRead := by
  rcases hm.readTurn?_cases with ⟨ht, hr, hn⟩ | ⟨t, ht, hp, hn, hr, -⟩
  · have hs : (ms ++ [m]).filterMap Step.readTurn? = ms.filterMap Step.readTurn? := by
      simp only [List.filterMap_append, List.filterMap_cons, ht, List.filterMap_nil,
        List.append_nil]
    constructor
    · rw [hs, hn]
      exact h.upcoming
    · rw [hs, List.flatMap_append, List.flatMap_singleton, hr, List.append_nil]
      exact h.reads
  · have hs : (ms ++ [m]).filterMap Step.readTurn? = ms.filterMap Step.readTurn? ++ [t] := by
      simp only [List.filterMap_append, List.filterMap_cons, ht, List.filterMap_nil]
    constructor
    · rw [hs, hn, DataPort.index_next]
      exact h.upcoming.concat hp
    · rw [hs, List.flatMap_append, List.flatMap_singleton, Turn.usedPorts_append,
        Turn.usedPorts_append, h.reads]
      rcases hr with hr | ⟨hr, hu⟩
      · rw [hr]
      · rw [hr]
        simp [Turn.usedPorts, hu]

theorem steps_readInTurn [Platform σ] (calls : List Call) {s : Session σ}
    (hs : s.driver.ports.nextRead = .first) :
    ReadInTurn (steps calls s) (run calls s).2.driver.ports.nextRead := by
  have h := steps_takesTurn calls s
  have hp := steps_path calls s
  generalize steps calls s = ms at h hp
  have h0 : ReadInTurn (σ := σ) [] s.driver.ports.nextRead := ⟨⟨rfl, by rw [hs]; rfl⟩, rfl⟩
  refine hp.rec_snoc (P := fun ms t ↦ (∀ m ∈ ms, m.TakesTurn) → ReadInTurn ms
    t.driver.ports.nextRead) (fun _ ↦ h0) (fun ms m _ _ ih hm ↦ ?_) h
  exact (ih fun k hk ↦ hm k (List.mem_append_left _ hk)).concat
    (hm m (List.mem_append_right _ List.mem_cons_self))

/-- Along every run, whatever the platform, the data ports have their turns in order, and the port
to be read next is the one whose turn it then is. A read of a data port is in its turn, which is
over even if the read fails or the length makes no sense; that ends the pass. So the ports that
frames were read from are in order themselves exactly if the turns missed before any of them make up
whole rounds. How the frames are dealt with has no part in it. -/
theorem reading_turns [Platform σ] (config : Config) (firmware : FirmwareSource) (device : σ)
    (calls : List Call) :
    let s := fresh config firmware device
    let ms := steps calls s
    let turns := ms.filterMap Step.readTurn?
    let frames := Turn.usedPorts (ms.flatMap Step.reads)
    InTurn (maxPort - 1) (Turn.ports turns) ∧
      (run calls s).2.driver.ports.nextRead.index = turns.length % (maxPort - 1) + 1 ∧
      frames = Turn.usedPorts turns ∧
      (InTurn (maxPort - 1) frames ↔ Turn.WholeRounds (maxPort - 1) turns) ∧
      ∀ m ∈ ms, (∀ t ∈ m.reads, m.readTurn? = some t) ∧
        ∀ t, m.readTurn? = some t → t.port = m.before.driver.ports.nextRead.index ∧
          m.after.driver.ports.nextRead = m.before.driver.ports.nextRead.next maxPort ∧
          (t.used = false → m.outcome = .error .receive) := by
  intro s ms turns frames
  have h : ReadInTurn ms (run calls s).2.driver.ports.nextRead := steps_readInTurn calls rfl
  have hf : frames = Turn.usedPorts turns := h.reads
  refine ⟨h.upcoming.ports, h.upcoming.next, hf, ?_, fun m hm ↦ ?_⟩
  · rw [hf]
    exact Turn.usedPorts_inTurn_iff h.upcoming.ports
  · rcases (steps_takesTurn calls s m hm).readTurn?_cases with
      ⟨ht, hr, -⟩ | ⟨t, ht, hp, hn, hr, ho⟩
    · rw [ht, hr]
      exact ⟨fun t ht ↦ (by cases ht), fun t ht ↦ (by cases ht)⟩
    · refine ⟨fun u hu ↦ ?_, fun u hu ↦ ?_⟩
      · rcases hr with hr | ⟨hr, -⟩
        · rw [hr, List.mem_singleton] at hu
          rw [hu, ht]
        · rw [hr] at hu
          cases hu
      · rw [ht] at hu
        cases hu
        exact ⟨hp, hn, ho⟩

/-- What waits at the data ports of a chip that fills them one after the other. -/
structure Backlog where
  filled : Nat := 0
  waiting : List (Nat × UInt16) := []

namespace Backlog

def next (b : Backlog) : Nat := b.filled % (maxPort - 1) + 1

def isFull (b : Backlog) (port : Nat) : Bool := b.waiting.any (·.1 == port)

def refill (b : Backlog) (r : Snapshot) : Nat → Backlog
  | 0 => b
  | n + 1 =>
    if PortSet.contains r.readable.toBitVec b.next && !b.isFull b.next then
      refill ⟨b.filled + 1, b.waiting ++ [(b.next, r.frameLength b.next)]⟩ r n
    else b

def Announced (b : Backlog) (r : Snapshot) : Prop :=
  (∀ i < maxPort - 1, PortSet.contains r.readable.toBitVec (i + 1) = b.isFull (i + 1)) ∧
    ∀ w ∈ b.waiting, r.frameLength w.1 = w.2

instance (b : Backlog) (r : Snapshot) : Decidable (b.Announced r) :=
  inferInstanceAs (Decidable (_ ∧ _))

def without (b : Backlog) (ports : List Nat) : Backlog :=
  { b with waiting := b.waiting.filter fun w ↦ !ports.contains w.1 }

end Backlog

namespace Step

def snapshot? (m : Step σ) : Option Snapshot :=
  m.actions.findSome? fun
    | .access (.readBlock address .incrementing _ (.ok bytes)) =>
      if address = Register.block then some ⟨bytes⟩ else none
    | _ => none

def backlog? (b : Backlog) (m : Step σ) : Option Backlog :=
  match m.snapshot? with
  | none => some (b.without (Turn.usedPorts m.reads))
  | some r =>
    let c := b.refill r maxPort
    if c.Announced r then some c else none

end Step

/-- The chip fills its data ports one after the other, and announces a frame with its length until
it has been fetched. -/
def FilledInTurn (ms : List (Step σ)) : Prop := (ms.foldlM Step.backlog? {}).isSome = true

def SimulatedChip.faltering : SimulatedChip :=
  (SimulatedChip.new.addFaults [⟨.readBlock, some 0x10001, -5, 0, 1⟩]).announce
    { frames := [(1, [4, 0, 9, 0]), (2, [4, 0, 9, 0])] }

/-- The chip still keeps the frame at the first port, but the next pass starts with the second. -/
theorem port_skipped_after_failed_read :
    let ms := steps [.init, .serviceInterrupt, .serviceInterrupt]
      (fresh {} (.image [165, 165]) SimulatedChip.faltering)
    FilledInTurn ms ∧ (∃ m ∈ ms, m.reads = [⟨1, false⟩] ∧ m.outcome = .error .receive ∧
      m.after.driver.ports.nextRead.index = 2) ∧
      Turn.usedPorts (ms.flatMap Step.reads) = [2] ∧
      ¬ InTurn (maxPort - 1) (Turn.usedPorts (ms.flatMap Step.reads)) := by
  unfold FilledInTurn
  decide +kernel

end SdioWlan
