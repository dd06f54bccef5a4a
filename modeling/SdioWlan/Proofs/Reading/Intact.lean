import SdioWlan.Proofs.Routine
import SdioWlan.Proofs.Station.Basic

namespace SdioWlan

/-- A frame that is fetched from a port: where from, how many bytes, and what came of it. -/
structure Fetch where
  address : UInt32
  size : Nat
  outcome : Except Errno Bytes
  deriving DecidableEq

def Action.fetch? : Action → Option Fetch
  | .access (.readBlock address .fifo size outcome) => some ⟨address, size, outcome⟩
  | _ => none

abbrev Action.NoFetch (a : Action) : Prop := a.fetch? = none

structure Intake where
  base : UInt32
  readable : PortSet
  nextRead : DataPort

def Driver.intake (d : Driver) : Intake := ⟨d.base, d.ports.readable, d.ports.nextRead⟩

namespace Session

variable {σ : Type}

abbrev Intact : Session σ → Session σ → Prop := Footprint Driver.intake Action.NoFetch

end Session

namespace PortAllocator

variable {σ : Type}

structure Intact (s t : PortAllocator × Link σ) : Prop where
  readable : t.1.readable = s.1.readable
  nextRead : t.1.nextRead = s.1.nextRead
  logged : Logs Action.NoFetch s.2 t.2

instance : IsPreorder (PortAllocator × Link σ) Intact where
  refl s := ⟨rfl, rfl, refl_of (Logs _) s.2⟩
  trans _ _ _ h h' := ⟨h'.readable.trans h.readable, h'.nextRead.trans h.nextRead,
    trans_of (Logs _) h.logged h'.logged⟩

variable [Platform σ]

theorem tryAcquire_intact : Guarantees (Intact (σ := σ)) tryAcquire := by
  intro s
  have hr : Logs Action.NoFetch s.2
      (Link.read16 Register.writableLow Register.writableHigh s.2).2 :=
    Link.read16_logs (fun _ _ ↦ rfl) s.2
  unfold tryAcquire
  rcases he : Link.read16 Register.writableLow Register.writableHigh s.2 with ⟨e | w, l⟩
  · rw [he] at hr
    exact ⟨rfl, rfl, hr⟩
  · rw [he] at hr
    by_cases hw : (s.1.setWritable w).writable.contains (s.1.setWritable w).nextWrite.index
    · simp only [nextWritable?, if_pos hw]
      exact ⟨rfl, rfl, hr⟩
    · simp only [nextWritable?, if_neg hw]
      exact ⟨rfl, rfl, hr⟩

/-- Waiting for a port to write to only looks at registers. -/
theorem acquire_intact (b : Budget) : Guarantees (Intact (σ := σ)) (acquire b) :=
  .poll tryAcquire_intact _

end PortAllocator

namespace Session

variable {σ : Type} [Platform σ]

theorem intact_routine : Routine (Intact (σ := σ)) where
  report _ := Footprint.record rfl
  stack _ := Footprint.record rfl
  update hg := Footprint.update fun d ↦
    congrArg (fun w : Wiring ↦ (⟨w.base, w.readable, w.nextRead⟩ : Intake)) (hg d)
  sendCommand _ := sendCommand_footprint (fun d o _ ↦ by unfold Driver.sent; split <;> rfl)
    fun _ _ ↦ rfl
  eraseLease _ := Footprint.eraseLease fun _ ↦ rfl

theorem count_intact (f : NetDevice → NetDevice) (role : Role) :
    Guarantees Intact (count f role : Act σ Unit) := count_confined intact_routine.confined f role

theorem onPorts_acquire_intact (b : Budget) :
    Guarantees Intact (onPorts (PortAllocator.acquire b) : Act σ Nat) := by
  intro s
  have h := PortAllocator.acquire_intact b (s.driver.ports, s.link)
  refine ⟨?_, h.logged⟩
  simp only [onPorts, Driver.intake, h.readable, h.nextRead]

theorem transmit_intact (payload : Bytes) (role : Role) :
    Guarantees Intact (transmit payload role : Act σ Unit) := by
  refine .lift_bind fun packet _ ↦ .bind (Footprint.view _) fun b ↦ ?_
  refine (onPorts_acquire_intact b).bind fun port ↦ .bind (Footprint.view _) fun address ↦ ?_
  exact Footprint.onLink (.adapt (Link.writeBlock_logs fun _ ↦ rfl))

theorem intact_relays : Relays (Intact (σ := σ)) where
  transmit := transmit_intact
  count := count_intact
  deliver _ _ := intact_routine.stack _

/-- Whatever a frame says and however dealing with it ends, what waits to be fetched stays. -/
theorem receive_intact (frame : Bytes) : Guarantees Intact (receive frame : Act σ Unit) :=
  receive_confined intact_routine.confined (fun _ ↦ Scope.le_counters _) fun _ ↦
    intact_relays.onData frame

end Session

end SdioWlan
