import SdioWlan.Proofs.Station.Basic

namespace SdioWlan

def CommandId.boots : CommandId → Bool
  | funcInit | macControl | getHwSpec | macAddr => true
  | _ => false

namespace Action

def bootCommand? (a : Action) : Option (CommandId × Except Errno Unit) :=
  match a.command? with
  | some (id, _, outcome) => if id.boots then some (id, outcome) else none
  | none => none

/-- What the application is told of the end of a bootstrap. -/
def initialized? : Action → Option (Except DriverError Mac)
  | report (.initialized status) => some status
  | _ => none

structure Detached (a : Action) : Prop where
  unwritten : a.bootCommand? = none
  untold : a.initialized? = none

end Action

theorem Command.bootCommand?_written {c : Command} (h : c.id ∈ CommandId.known) (base : UInt32)
    (outcome : Except Errno Unit) :
    (c.written base outcome).bootCommand? = if c.id.boots then some (c.id, outcome) else none := by
  simp only [Action.bootCommand?, command?_written h]

theorem Command.written_detached {c : Command} (h : c.id ∈ CommandId.known)
    (hc : c.id.boots = false) (base : UInt32) (outcome : Except Errno Unit) :
    (c.written base outcome).Detached := by
  refine ⟨?_, rfl⟩
  rw [c.bootCommand?_written h, hc]
  rfl

/-- An access that writes no command of either concerns neither the station nor the bootstrap. -/
theorem Action.apart_of_access {a : Access}
    (h : ∀ w ∈ (Action.access a).command?, w.1.connects = false ∧ w.1.boots = false) :
    (Action.access a).Calm ∧ (Action.access a).Detached := by
  simp only [Calm, concernsStation]
  cases hw : (Action.access a).command? with
  | none => exact ⟨rfl, by simp only [bootCommand?, hw], rfl⟩
  | some w =>
    obtain ⟨hc, hb⟩ := h w hw
    refine ⟨hc, ?_, rfl⟩
    simp only [bootCommand?, hw, hb, Bool.false_eq_true, if_false]

namespace Footprint

variable {σ β γ : Type} {f : Driver → β} {g : Driver → γ} {P Q : Action → Prop} {s t : Session σ}

theorem left (h : Footprint (fun d ↦ (f d, g d)) (fun a ↦ P a ∧ Q a) s t) : Footprint f P s t := by
  obtain ⟨hk, k, hp, hl⟩ := h
  exact ⟨congrArg Prod.fst hk, k, hp, fun a ha ↦ (hl a ha).1⟩

theorem right (h : Footprint (fun d ↦ (f d, g d)) (fun a ↦ P a ∧ Q a) s t) :
    Footprint g Q s t := by
  obtain ⟨hk, k, hp, hl⟩ := h
  exact ⟨congrArg Prod.snd hk, k, hp, fun a ha ↦ (hl a ha).2⟩

end Footprint

namespace Session

variable {σ : Type}

abbrev Detached : Session σ → Session σ → Prop := Footprint Driver.boot Action.Detached

abbrev Apart : Session σ → Session σ → Prop :=
  Footprint (fun d ↦ (d.station, d.boot)) fun a ↦ a.Calm ∧ a.Detached

variable [Platform σ]

theorem sendCommand_quiet {c : Command} (h : c.id ∈ CommandId.known)
    (hc : c.id.connects = false) : Guarantees Quiet (sendCommand c : Act σ Unit) :=
  sendCommand_footprint (fun _ o hh ↦ Driver.station_sent hh hc o) (c.written_calm h hc)

theorem sendCommand_detached {c : Command} (h : c.id ∈ CommandId.known)
    (hc : c.id.boots = false) : Guarantees Detached (sendCommand c : Act σ Unit) :=
  sendCommand_footprint (fun d o _ ↦ d.boot_sent c o) (c.written_detached h hc)

/-- A command by which nobody connects is sent at once. -/
theorem issue_guarantees {R : Session σ → Session σ → Prop} [IsPreorder (Session σ) R]
    {id : CommandId} (h : id.connects = false)
    (hs : ∀ c : Command, c.id = id → id ∈ CommandId.known →
      Guarantees R (sendCommand c : Act σ Unit)) (action : CommandAction) (payload : Bytes) :
    Guarantees R (issue id action payload : Act σ Unit) := by
  refine .bind (fun s ↦ refl_of R s) fun target ↦ .lift_bind fun c hc ↦ ?_
  obtain ⟨hi, hk⟩ := Command.encode_id hc
  have hg : gate id target.security = .sendNow := by
    have ha : id ≠ .associate := fun ha ↦ by rw [ha] at h; cases h
    simp only [gate, ha, false_and, if_false]
  simpa only [hg] using hs c hi hk

theorem issue_quiet {id : CommandId} (h : id.connects = false) (action : CommandAction)
    (payload : Bytes) : Guarantees Quiet (issue id action payload : Act σ Unit) :=
  issue_guarantees h (fun _ hi hk ↦ sendCommand_quiet (hi ▸ hk) (hi ▸ h)) action payload

theorem issue_detached {id : CommandId} (h : id.boots = false) (action : CommandAction)
    (payload : Bytes) : Guarantees Detached (issue id action payload : Act σ Unit) := by
  refine (Footprint.view _).bind fun target ↦ .lift_bind fun c hc ↦ ?_
  obtain ⟨rfl, hk⟩ := Command.encode_id hc
  cases gate c.id target.security with
  | sendNow => exact sendCommand_detached hk h
  | stage => exact Footprint.update fun _ ↦ rfl

end Session

end SdioWlan
