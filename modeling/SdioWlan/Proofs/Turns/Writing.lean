import SdioWlan.Proofs.Path
import SdioWlan.Proofs.Routine
import SdioWlan.Proofs.ScriptedChip
import SdioWlan.Proofs.Station.Basic
import SdioWlan.Proofs.Turns.Basic
import SdioWlan.SimulatedChip

namespace SdioWlan

variable {σ : Type}

def Action.write? (base : UInt32) : Action → Option Turn
  | .access (.writeBlock address .fifo _ o) => (dataPort? base address).map fun p ↦ ⟨p, o.isOk⟩
  | _ => none

theorem Command.written_write? (c : Command) (base : UInt32) (o : Except Errno Unit) :
    (c.written base o).write? base = none := by
  simp only [written, Action.write?, dataPort?_control, Option.map_none]

namespace PortAllocator

/-- What comes of looking for a port to write to: the one whose turn it is, and then its turn is
over, or none, and then nothing has changed but what is known of the ports. -/
inductive Acquires (a : PortAllocator) : Except DriverError Nat → PortAllocator → Prop
  | refused (e : DriverError) (writable : PortSet) : Acquires a (.error e) { a with writable }
  | found (writable : PortSet) :
      Acquires a (.ok a.nextWrite.index)
        { a with writable, nextWrite := a.nextWrite.next a.writeWrap }

theorem Acquires.of_setWritable {a b : PortAllocator} {writable : PortSet}
    {o : Except DriverError Nat} (h : Acquires { a with writable } o b) : a.Acquires o b := by
  cases h with
  | refused e w => exact .refused e w
  | found w => exact .found w

variable [Platform σ]

theorem tryAcquire_acquires (s : PortAllocator × Link σ) :
    match tryAcquire s with
    | (.error e, t) => s.1.Acquires (.error e) t.1
    | (.ok none, t) => ∃ writable, t.1 = { s.1 with writable }
    | (.ok (some port), t) => s.1.Acquires (.ok port) t.1 := by
  obtain ⟨a, l⟩ := s
  unfold tryAcquire
  dsimp only
  rcases Link.read16 Register.writableLow Register.writableHigh l with ⟨e | w, l'⟩
  · exact .refused _ a.writable
  · simp only [nextWritable?, setWritable]
    by_cases hw : PortSet.contains w.toBitVec a.nextWrite.index
    · simp only [hw, if_true]
      exact .found _
    · simp only [hw, Bool.false_eq_true, if_false]
      exact ⟨_, rfl⟩

theorem acquire_acquires (b : Budget) (s : PortAllocator × Link σ) :
    s.1.Acquires (acquire b s).1 (acquire b s).2.1 := by
  unfold acquire Budget.poll
  generalize b.maxTries.toNat = n
  induction n generalizing s with
  | zero => exact .refused _ s.1.writable
  | succ n ih =>
    have h := tryAcquire_acquires s
    rw [poll, work_bind_apply]
    rcases ht : tryAcquire s with ⟨e | _ | port, t⟩
    · rw [ht] at h
      exact h
    · rw [ht] at h
      obtain ⟨w, hw⟩ := h
      have ih := ih t
      rw [hw] at ih
      exact ih.of_setWritable
    · rw [ht] at h
      exact h

end PortAllocator

def Driver.setWriting (d : Driver) (writable : PortSet) (nextWrite : DataPort) : Driver :=
  { d with ports := { d.ports with writable, nextWrite } }

namespace Session

def Writes (s t : Session σ) (l : List Turn) : Prop :=
  ∃ k, t.link.past = k ++ s.link.past ∧ k.reverse.filterMap (Action.write? s.driver.base) = l

structure Unsent (s t : Session σ) : Prop where
  base : t.driver.base = s.driver.base
  nextWrite : t.driver.ports.nextWrite = s.driver.ports.nextWrite
  logged : Logs (fun a ↦ a.write? s.driver.base = none) s.link t.link

instance : IsPreorder (Session σ) Unsent where
  refl s := ⟨rfl, rfl, refl_of (Logs _) s.link⟩
  trans s t u := by
    rintro ⟨hb, hn, hl⟩ ⟨hb', hn', hl'⟩
    rw [hb] at hl'
    exact ⟨hb'.trans hb, hn'.trans hn, trans_of (Logs _) hl hl'⟩

theorem unsent_cons {s : Session σ} {a : Action} (h : a.write? s.driver.base = none) (device : σ) :
    Unsent s ⟨s.driver, ⟨device, a :: s.link.past⟩⟩ := ⟨rfl, rfl, .cons h device⟩

theorem Unsent.writes {s t : Session σ} (h : Unsent s t) : Writes s t [] := by
  obtain ⟨k, hk, hl⟩ := h.logged
  exact ⟨k, hk, List.filterMap_eq_nil_iff.mpr fun a ha ↦ hl a (List.mem_reverse.mp ha)⟩

theorem Writes.append {s t u : Session σ} {l m : List Turn} (h : Writes s t l)
    (hb : t.driver.base = s.driver.base) (h' : Writes t u m) : Writes s u (l ++ m) := by
  obtain ⟨j, hj, rfl⟩ := h
  obtain ⟨k, hk, rfl⟩ := h'
  refine ⟨k ++ j, ?_, ?_⟩
  · rw [hk, hj, List.append_assoc]
  · rw [List.reverse_append, List.filterMap_append, hb]

/-- One block is written to the data port whose turn it is, and that ends the turn. -/
structure Sent (s : Session σ) (used : Bool) (t : Session σ) : Prop where
  base : t.driver.base = s.driver.base
  nextWrite : t.driver.ports.nextWrite =
    s.driver.ports.nextWrite.next s.driver.ports.writeWrap
  writes : Writes s t [⟨s.driver.ports.nextWrite.index, used⟩]

theorem Sent.trans_unsent {s t u : Session σ} {used : Bool} (h : Sent s used t)
    (h' : Unsent t u) : Sent s used u :=
  ⟨h'.base.trans h.base, h'.nextWrite.trans h.nextWrite, h.writes.append h.base h'.writes⟩

/-- Work that writes to a data port at most once, and not unless the driver is ready. -/
def SentOnce (s t : Session σ) : Prop :=
  Unsent s t ∨ s.driver.boot.isReady = true ∧ ∃ used, Sent s used t

theorem SentOnce.trans_unsent {s t u : Session σ} (h : SentOnce s t) (h' : Unsent t u) :
    SentOnce s u := by
  obtain h | ⟨hr, used, h⟩ := h
  · exact .inl (trans_of Unsent h h')
  · exact .inr ⟨hr, used, h.trans_unsent h'⟩

theorem sentOnce_of_unsent {α : Type} {x : Act σ α} (h : Guarantees Unsent x) :
    Guarantees SentOnce x := fun s ↦ .inl (h s)

theorem sentOnce_bind {α β : Type} {x : Act σ α} {f : α → Act σ β} (hx : Guarantees SentOnce x)
    (hf : ∀ a, Guarantees Unsent (f a)) : Guarantees SentOnce (x >>= f) := by
  intro s
  have h := hx s
  rw [bind_apply]
  rcases he : x s with ⟨e | a, t⟩
  · rwa [he] at h
  · rw [he] at h
    exact h.trans_unsent (hf a t)

theorem sentOnce_view {α β : Type} {g : Driver → α} {f : α → Act σ β}
    (hf : ∀ a, Guarantees SentOnce (f a)) : Guarantees SentOnce (view g >>= f) :=
  fun s ↦ hf (g s.driver) s

theorem sentOnce_tryCatch {α : Type} {x : Act σ α} {f : DriverError → Act σ α}
    (hx : Guarantees SentOnce x) (hf : ∀ e, Guarantees Unsent (f e)) :
    Guarantees SentOnce (tryCatch x f) := by
  intro s
  have h := hx s
  rw [tryCatch_apply]
  rcases he : x s with ⟨e | a, t⟩
  · rw [he] at h
    exact h.trans_unsent (hf e t)
  · rwa [he] at h

variable [Platform σ]

theorem sendCommand_unsent (c : Command) : Guarantees Unsent (sendCommand c : Act σ Unit) := by
  intro s
  cases hh : s.driver.channel.held with
  | true => rw [sendCommand_of_held hh]; exact refl_of Unsent s
  | false =>
    rw [sendCommand_eq hh]
    have hd (o : Except Errno Unit) : (s.driver.sent c o).wiring = s.driver.wiring := by
      unfold Driver.sent
      split <;> rfl
    exact ⟨congrArg Wiring.base (hd _), congrArg Wiring.nextWrite (hd _),
      .cons (c.written_write? _ _) _⟩

theorem unsent_routine : Routine (Unsent (σ := σ)) where
  report r _ := unsent_cons (a := .report r) rfl _
  stack c _ := unsent_cons (a := .stack c) rfl _
  update hg s := ⟨congrArg Wiring.base (hg s.driver), congrArg Wiring.nextWrite (hg s.driver),
    refl_of (Logs _) s.link⟩
  sendCommand := sendCommand_unsent
  eraseLease mac _ := unsent_cons (a := .stack (.eraseLease mac _)) rfl _

inductive Transmits (s : Session σ) : Except DriverError Unit → Session σ → Prop
  | unwritten (e : DriverError) (writable : PortSet) {t : Session σ} (h : Unsent s t)
      (hd : t.driver = s.driver.setWriting writable s.driver.ports.nextWrite) :
      Transmits s (.error e) t
  | written (o : Except Errno Unit) (writable : PortSet) {t : Session σ} (h : Sent s o.isOk t)
      (hd : t.driver = s.driver.setWriting writable
        (s.driver.ports.nextWrite.next s.driver.ports.writeWrap)) :
      Transmits s (o.mapError fun _ ↦ .sendData) t

theorem transmit_transmits (payload : Bytes) (role : Role) (s : Session σ) :
    Transmits s (transmit payload role s).1 (transmit payload role s).2 := by
  simp only [transmit, bind_apply, liftM_apply, view_apply]
  cases DataFrame.build payload role with
  | error e => exact .unwritten e s.driver.ports.writable (refl_of Unsent s) rfl
  | ok packet =>
    have ha := PortAllocator.acquire_acquires s.driver.config.writePortBudget
      (s.driver.ports, s.link)
    have hl := PortAllocator.acquire_logs (P := fun a ↦ a.write? s.driver.base = none)
      (fun _ _ ↦ rfl) s.driver.config.writePortBudget (s.driver.ports, s.link)
    simp only [onPorts]
    generalize PortAllocator.acquire s.driver.config.writePortBudget (s.driver.ports, s.link) = r
      at ha hl
    obtain ⟨o, a, l⟩ := r
    dsimp only at ha hl ⊢
    cases ha with
    | refused e writable => exact .unwritten e writable ⟨rfl, rfl, hl⟩ rfl
    | found writable =>
      dsimp only
      rw [onLink_writeBlock]
      dsimp only
      generalize Platform.writeBlock (portAddress s.driver.base s.driver.ports.nextWrite.index)
        Addressing.fifo packet.data l.device = r
      obtain ⟨o, device⟩ := r
      have hu : Unsent s ⟨s.driver, l⟩ := ⟨rfl, rfl, hl⟩
      refine .written o writable ⟨rfl, rfl, hu.writes.append rfl ⟨[_], rfl, ?_⟩⟩ rfl
      simp only [List.reverse_singleton, List.filterMap_cons, Action.write?, dataPort?_data,
        Option.map_some, List.filterMap_nil]

theorem transmit_sentOnce (payload : Bytes) (role : Role) {s : Session σ}
    (h : s.driver.boot.isReady = true) : SentOnce s (transmit payload role s).2 := by
  have ht := transmit_transmits payload role s
  generalize transmit payload role s = r at ht
  obtain ⟨o, t⟩ := r
  cases ht with
  | unwritten e writable hu => exact .inl hu
  | written o writable hs => exact .inr ⟨h, _, hs⟩

theorem sendData_sentOnce (payload : Bytes) (role : Role) :
    Guarantees SentOnce (sendData payload role : Act σ Unit) := by
  intro s
  cases hr : s.driver.boot.isReady with
  | false =>
    rw [sendData_of_not_ready hr]
    exact .inl (refl_of Unsent s)
  | true =>
    have ht := transmit_sentOnce payload role hr
    rw [sendData_of_ready hr]
    rcases he : transmit payload role s with ⟨e | _, t⟩
    · rw [he] at ht
      exact ht.trans_unsent (count_confined unsent_routine.confined _ role t)
    · rw [he] at ht
      exact ht.trans_unsent (count_confined unsent_routine.confined _ role t)

theorem forward_sentOnce (payload : Bytes) :
    Guarantees SentOnce (forward payload : Act σ Unit) := by
  refine sentOnce_tryCatch ?_ fun _ ↦ count_confined unsent_routine.confined _ _
  exact sentOnce_bind (sendData_sentOnce _ _) fun _ ↦ count_confined unsent_routine.confined _ _

theorem onData_sentOnce (frame : Bytes) : Guarantees SentOnce (onData frame : Act σ Unit) := by
  unfold onData
  cases DataFrame.parse frame with
  | error e => exact sentOnce_of_unsent (count_confined unsent_routine.confined _ _)
  | ok r =>
    refine sentOnce_view fun route ↦ ?_
    have hd := delivery_guarantees (σ := σ) (count_confined unsent_routine.confined)
      (fun _ _ ↦ unsent_routine.stack _) route r
    exact .ite (fun _ ↦ sentOnce_bind (forward_sentOnce _) fun _ ↦ hd) fun _ ↦ sentOnce_of_unsent hd

theorem receive_sentOnce (frame : Bytes) : Guarantees SentOnce (receive frame : Act σ Unit) := by
  by_cases hd : frame[2]? = some FrameKind.data.code
  · rw [receive_data hd]
    exact onData_sentOnce frame
  · have hr := receive_confined (σ := σ) (f := frame) unsent_routine.confined
      (fun _ ↦ Scope.le_counters _) fun h ↦ absurd h hd
    exact sentOnce_of_unsent hr

theorem perform_sentOnce {c : Call} (hi : c ≠ .init) (hs : c ≠ .serviceInterrupt) :
    Guarantees SentOnce (perform c : Act σ Unit) := by
  cases c with
  | sendData payload role => exact sendData_sentOnce payload role
  | _ =>
    refine sentOnce_of_unsent ?_
    exact perform_confined unsent_routine.confined (Scope.le_counters _) hi hs (by simp)

end Session

namespace Step

def writes (m : Step σ) : List Turn :=
  if m.trigger = .bus then []
  else m.actions.reverse.filterMap (Action.write? m.after.driver.base)

theorem writes_eq {m : Step σ} {s : Session σ} {l : List Turn} (ht : m.trigger ≠ .bus)
    (hs : s.link = m.before.link) (hb : m.after.driver.base = s.driver.base)
    (h : s.Writes m.after l) : m.writes = l := by
  obtain ⟨k, hk, hl⟩ := h
  rw [hs] at hk
  rw [writes, if_neg ht, actions_eq hk, hb, hl]

/-- A step ends no turn and writes to no data port; or it ends the turn of the port that was to be
written to next by writing there, and then the driver is ready. -/
inductive EndsTurn (m : Step σ) : Prop
  | none (hn : m.after.driver.ports.nextWrite = m.before.driver.ports.nextWrite)
      (hw : m.writes = [])
  | one (used : Bool) (hr : m.before.driver.boot.isReady = true)
      (hn : m.after.driver.ports.nextWrite =
        m.before.driver.ports.nextWrite.next m.before.driver.ports.writeWrap)
      (hw : m.writes = [⟨m.before.driver.ports.nextWrite.index, used⟩])

theorem endsTurn_of_sentOnce {m : Step σ} (ht : m.trigger ≠ .bus)
    (h : m.before.SentOnce m.after) : m.EndsTurn := by
  obtain h | ⟨hr, used, h⟩ := h
  · exact .none h.nextWrite (writes_eq ht rfl h.base h.writes)
  · exact .one used hr h.nextWrite (writes_eq ht rfl h.base h.writes)

end Step

namespace Session

variable [Platform σ]

theorem afterPowerUp_endsTurn (base : Except DriverError UInt32) (s : Session σ) :
    Step.EndsTurn ⟨.powered base, s, (afterPowerUp base s).1, (afterPowerUp base s).2⟩ := by
  cases base with
  | error e =>
    have hf : Guarantees Unsent (do failBoot e; throw e : Act σ Unit) :=
      (failBoot_confined unsent_routine.confined e).bind fun _ ↦ .throw e
    exact Step.endsTurn_of_sentOnce (by simp) (.inl (hf s))
  | ok base =>
    let s' : Session σ := ⟨{ s.driver with base, boot := .start }, s.link⟩
    have hp : Unsent s' (pumpBootstrap s').2 := pumpBootstrap_confined unsent_routine.confined s'
    exact .none hp.nextWrite (Step.writes_eq (s := s') (by simp) rfl hp.base hp.writes)

end Session

theorem Step.Genuine.endsTurn [Platform σ] {m : Step σ} (h : m.Genuine) : m.EndsTurn := by
  obtain ⟨trigger, s, o, t⟩ := m
  cases trigger with
  | bus => exact .none (congrArg (·.ports.nextWrite) (Footprint.kept h)) rfl
  | powered base =>
    have ht := Session.afterPowerUp_endsTurn base s
    rwa [show Session.afterPowerUp base s = (o, t) from h] at ht
  | call c =>
    obtain ⟨hi, hs, he⟩ := h
    have ht := Session.perform_sentOnce hi hs s
    dsimp only at he
    rw [he] at ht
    exact Step.endsTurn_of_sentOnce (by simp) ht
  | frame f =>
    have ht := Session.receive_sentOnce f s
    rw [show Session.receive f s = (o, t) from h] at ht
    exact Step.endsTurn_of_sentOnce (by simp) ht

/-- How a call to send data can end. It changes no more than what is known of the ports to write to,
a counter and, if a block was written, the port that comes next. -/
inductive Step.SendsData (m : Step σ) (payload : Bytes) (role : Role) : Prop
  | notReady (hr : m.before.driver.boot.isReady = false) (ho : m.outcome = .error .invalidState)
      (hd : m.after.driver = m.before.driver) (hw : m.writes = [])
  | unwritten (e : DriverError) (writable : PortSet) (ho : m.outcome = .error e)
      (hd : m.after.driver = (m.before.driver.setWriting writable
        m.before.driver.ports.nextWrite).updateDevice NetDevice.countTxError role)
      (hw : m.writes = [])
  | refused (writable : PortSet) (ho : m.outcome = .error .sendData)
      (hd : m.after.driver = (m.before.driver.setWriting writable
        (m.before.driver.ports.nextWrite.next m.before.driver.ports.writeWrap)).updateDevice
          NetDevice.countTxError role)
      (hw : m.writes = [⟨m.before.driver.ports.nextWrite.index, false⟩])
  | taken (writable : PortSet) (ho : m.outcome = .ok ())
      (hd : m.after.driver = (m.before.driver.setWriting writable
        (m.before.driver.ports.nextWrite.next m.before.driver.ports.writeWrap)).updateDevice
          (NetDevice.countTx · payload.length) role)
      (hw : m.writes = [⟨m.before.driver.ports.nextWrite.index, true⟩])

open Session

section Sending

variable [Platform σ]

theorem sendData_sendsData (payload : Bytes) (role : Role) (s : Session σ) :
    Step.SendsData ⟨.call (.sendData payload role), s, (sendData payload role s).1,
      (sendData payload role s).2⟩ payload role := by
  cases hr : s.driver.boot.isReady with
  | false =>
    rw [sendData_of_not_ready hr]
    have hu := refl_of Unsent s
    exact .notReady hr rfl rfl (Step.writes_eq (by simp) rfl hu.base hu.writes)
  | true =>
    have ht := transmit_transmits payload role s
    rw [sendData_of_ready hr]
    generalize transmit payload role s = r at ht
    obtain ⟨o, t⟩ := r
    have hc (f : NetDevice → NetDevice) : Unsent t ⟨t.driver.updateDevice f role, t.link⟩ :=
      count_confined unsent_routine.confined f role t
    cases ht with
    | unwritten e writable hu hd =>
      have hu := trans_of Unsent hu (hc NetDevice.countTxError)
      refine .unwritten e writable rfl ?_ (Step.writes_eq (by simp) rfl hu.base hu.writes)
      exact congrArg (fun d ↦ d.updateDevice NetDevice.countTxError role) hd
    | written o writable hs hd =>
      cases o with
      | error e =>
        have hs := hs.trans_unsent (hc NetDevice.countTxError)
        refine .refused writable rfl ?_ (Step.writes_eq (by simp) rfl hs.base hs.writes)
        exact congrArg (fun d ↦ d.updateDevice NetDevice.countTxError role) hd
      | ok =>
        have hs := hs.trans_unsent (hc (NetDevice.countTx · payload.length))
        refine .taken writable rfl ?_ (Step.writes_eq (by simp) rfl hs.base hs.writes)
        exact congrArg (fun d ↦ d.updateDevice (NetDevice.countTx · payload.length) role) hd

theorem Step.Genuine.sendsData {m : Step σ} {payload : Bytes} {role : Role} (h : m.Genuine)
    (ht : m.trigger = .call (.sendData payload role)) : m.SendsData payload role := by
  obtain ⟨trigger, s, o, t⟩ := m
  subst ht
  obtain ⟨-, -, he⟩ := h
  have hs := sendData_sendsData payload role s
  rwa [show sendData payload role s = (o, t) from he] at hs

theorem steps_upcoming {calls : List Call} {s : Session σ} {wrap : Nat}
    (hs : s.driver.ports.nextWrite = .first) (hw : 2 ≤ wrap) (hm : wrap ≤ maxPort)
    (h : ∀ m ∈ steps calls s, m.before.driver.boot.isReady →
      m.before.driver.ports.writeWrap = wrap) :
    Turn.Upcoming (wrap - 1) ((steps calls s).flatMap Step.writes)
      (run calls s).2.driver.ports.nextWrite.index := by
  have hp := steps_path calls s
  generalize steps calls s = ms at h hp
  have h0 : Turn.Upcoming (wrap - 1) (([] : List (Step σ)).flatMap Step.writes)
      s.driver.ports.nextWrite.index := ⟨rfl, by rw [hs]; simp [DataPort.first]⟩
  refine hp.rec_snoc
    (P := fun ms t ↦ (∀ m ∈ ms, m.before.driver.boot.isReady →
      m.before.driver.ports.writeWrap = wrap) →
        Turn.Upcoming (wrap - 1) (ms.flatMap Step.writes) t.driver.ports.nextWrite.index)
    (fun _ ↦ h0) (fun ms m _ hg ih hm ↦ ?_) h
  have ih := ih fun k hk ↦ hm k (List.mem_append_left _ hk)
  rw [List.flatMap_append, List.flatMap_singleton]
  cases hg.endsTurn with
  | none hn hw =>
    rw [hn, hw, List.append_nil]
    exact ih
  | one used hr hn hw' =>
    have hwrap := hm m (List.mem_append_right _ List.mem_cons_self) hr
    have hlt : m.before.driver.ports.nextWrite.index < wrap := by
      have := Nat.mod_lt ((ms.flatMap Step.writes).length) (show wrap - 1 > 0 by omega)
      have := ih.next
      omega
    rw [hn, hw', hwrap, DataPort.index_next_of_lt hlt ‹_›]
    exact ih.concat rfl

end Sending

/-- Along every run with one end of the ports while the chip is ready, and whatever the platform,
blocks are written to the data ports in turn, and the port to be written to next is the one whose
turn it then is. A turn is over even if the block is not taken; what fails before a block is written
ends none. So the ports whose blocks were taken are in order themselves exactly if the blocks not
taken before any of them make up whole rounds. -/
theorem writing_turns [Platform σ] (config : Config) (firmware : FirmwareSource) (device : σ)
    (calls : List Call) (endPort : UInt16)
    (h : ∀ m ∈ steps calls (fresh config firmware device),
      m.before.driver.boot.isReady → m.before.driver.ports.endPort = endPort) :
    let s := fresh config firmware device
    let ms := steps calls s
    let wrap := if 2 ≤ endPort.toNat ∧ endPort.toNat ≤ maxPort then endPort.toNat else maxPort
    let turns := ms.flatMap Step.writes
    InTurn (wrap - 1) (Turn.ports turns) ∧
      (run calls s).2.driver.ports.nextWrite.index = turns.length % (wrap - 1) + 1 ∧
      (InTurn (wrap - 1) (Turn.usedPorts turns) ↔ Turn.WholeRounds (wrap - 1) turns) ∧
      ∀ m ∈ ms, m.EndsTurn ∧ ∀ payload role, m.trigger = .call (.sendData payload role) →
        m.SendsData payload role := by
  intro s ms wrap turns
  have hwrap (a : PortAllocator) (ha : a.endPort = endPort) : a.writeWrap = wrap := by
    rw [PortAllocator.writeWrap, ha]
  have hmem := PortAllocator.writeWrap_mem { endPort }
  rw [hwrap _ rfl] at hmem
  have hu : Turn.Upcoming (wrap - 1) turns (run calls s).2.driver.ports.nextWrite.index :=
    steps_upcoming rfl hmem.1 hmem.2 fun m hm hr ↦ hwrap _ (h m hm hr)
  refine ⟨hu.ports, hu.next, Turn.usedPorts_inTurn_iff hu.ports, fun m hm ↦ ?_⟩
  obtain ⟨pre, post, hms⟩ := List.append_of_mem hm
  have hp := steps_path calls s
  rw [show steps calls s = pre ++ m :: post from hms] at hp
  obtain ⟨-, hg, -⟩ := hp.around
  exact ⟨hg.endsTurn, fun payload role ht ↦ hg.sendsData ht⟩

def SimulatedChip.answering (faults : List Fault) : SimulatedChip :=
  (SimulatedChip.new.addFaults faults).announce
    { frames := ScriptedChip.bootFrames.zipIdx.map fun f ↦ (f.2 + 1, f.1) }

/-- Nothing to send, and then ports that cannot be looked at: two sends fail and end no turn. -/
theorem writing_turns_kept :
    let s := fresh {} (.image [165, 165])
      (SimulatedChip.answering [⟨.readByte, some Register.writableLow, -5, 0, 1⟩])
    let calls := [.init, .serviceInterrupt, .sendData [] .sta, .sendData [7] .sta,
      .sendData [7] .sta, .sendData [7] .uap]
    let ms := steps calls s
    (∀ m ∈ ms, m.before.driver.boot.isReady → m.before.driver.ports.endPort = 16) ∧
      (run calls s).1.map (·.isOk) = [true, true, false, false, true, true] ∧
      Turn.usedPorts (ms.flatMap Step.writes) = [1, 2] ∧
      Turn.WholeRounds 15 (ms.flatMap Step.writes) := by
  intro s calls ms
  have h : ∀ m ∈ ms, m.before.driver.boot.isReady → m.before.driver.ports.endPort = 16 := by
    decide +kernel
  have hu : Turn.usedPorts (ms.flatMap Step.writes) = [1, 2] := by decide +kernel
  refine ⟨h, by decide +kernel, hu, ?_⟩
  exact (writing_turns _ _ _ calls 16 h).2.2.1.mp (by rw [hu]; rfl)

/-- The block for the first port is not taken, and the next frame goes to the second. -/
theorem port_skipped_after_failed_write :
    let ms := steps [.init, .serviceInterrupt, .sendData [7] .sta, .sendData [7] .sta]
      (fresh {} (.image [165, 165])
        (SimulatedChip.answering [⟨.writeBlock, some 0x10001, -5, 0, 1⟩]))
    (∀ m ∈ ms, m.before.driver.boot.isReady → m.before.driver.ports.endPort = 16) ∧
      (∃ m ∈ ms, m.trigger = .call (.sendData [7] .sta) ∧ m.outcome = .error .sendData ∧
        m.before.driver.ports.nextWrite.index = 1 ∧ m.after.driver.ports.nextWrite.index = 2) ∧
      Turn.usedPorts (ms.flatMap Step.writes) = [2] ∧
      ¬ InTurn 15 (Turn.usedPorts (ms.flatMap Step.writes)) := by
  decide +kernel

end SdioWlan
