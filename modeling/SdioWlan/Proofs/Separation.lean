import SdioWlan.Proofs.Apart
import SdioWlan.Proofs.Path

namespace SdioWlan

/-- Whose command it is: the station's, or the access point's. Block acknowledgements, and what the
driver does not know, are put down to the access point. -/
def CommandId.side? : CommandId → Option Role
  | scan | supplicantPmk | associate | deauthenticate => some .sta
  | sysConfigure | bssStart | bssStop | staDeauth | addbaRsp | unknown _ => some .uap
  | getHwSpec | macControl | macAddr | funcInit | funcShutdown => none

def EventId.side : EventId → Role
  | portRelease | deauthenticated => .sta
  | uapStaAssoc | uapStaDeauth | uapBssStart | uapBssIdle | uapBssActive | uapRsnConnect
  | wmmStatusChange | addba | delba | unknown _ => .uap

/-- Whom a message is about. Only the commands that start the chip or shut it down are about
neither. -/
def Message.side? : Message → Option Role
  | .response id _ _ => id.side?
  | .event id _ => some id.side
  | .other => some .uap

def Action.topic? : Action → Option Scope
  | .access _ => none
  | .stack c => some c.scope
  | .report r => some r.scope

/-- A step that works with the bus, or deals with a frame that is about one side. -/
def Step.Serves {σ : Type} (m : Step σ) (role : Role) : Prop :=
  m.trigger = .bus ∨ ∃ f, m.trigger = .frame f ∧ (Message.ofFrame f).side? = some role

theorem CommandId.aside_of_side? {id : CommandId} (h : id.side? = some .uap) :
    id.connects = false ∧ id.boots = false ∧ id ≠ .funcShutdown := by
  cases id with
  | sysConfigure | bssStart | bssStop | staDeauth | addbaRsp | unknown => exact ⟨rfl, rfl, nofun⟩
  | _ => cases h

/-- Whatever the chip answers to a command of the station, it reaches no farther. -/
theorem Message.scope_of_side? {m : Message} (h : m.side? = some .sta) : m.scope = .station := by
  cases m with
  | response id result body =>
    have hs : id.scope = .station := by
      cases id with
      | scan | supplicantPmk | associate | deauthenticate => rfl
      | _ => cases h
    rw [scope, hs]
    exact ite_self _
  | event id body =>
    cases id with
    | portRelease | deauthenticated => rfl
    | _ => cases h
  | other => cases h

namespace Session

variable {σ : Type}

abbrev SparesStation : Session σ → Session σ → Prop :=
  Footprint (fun d ↦ (d.station, d.boot)) fun a ↦ ∀ k ∈ a.topic?, k ≠ .station

abbrev SparesAccessPoint : Session σ → Session σ → Prop :=
  Footprint (fun d ↦ (d.clients, d.uap)) fun a ↦ ∀ k ∈ a.topic?, k = .station

variable [Platform σ]

theorem sparesStation_aside : Aside (SparesStation (σ := σ)) := by
  refine footprint_aside (fun r hr k hk ↦ ?_) (fun c hc k hk ↦ ?_) nofun
  · cases hk
    exact hr
  · cases hk
    exact hc

theorem sparesAccessPoint_confined : Confined .station (SparesAccessPoint (σ := σ)) := by
  refine footprint_confined (fun _ ↦ rfl) (fun r hr k hk ↦ ?_) (fun c hc k hk ↦ ?_) nofun
  · cases hk
    exact Scope.eq_station_of_le hr
  · cases hk
    exact Scope.eq_station_of_le hc

theorem receive_sparesStation {f : Bytes} (h : (Message.ofFrame f).side? = some .uap) :
    Guarantees SparesStation (receive f : Act σ Unit) := by
  cases hm : Message.ofFrame f with
  | response id result body =>
    rw [hm] at h
    rw [receive_response hm]
    obtain ⟨hc, hb, hs⟩ := CommandId.aside_of_side? h
    exact sparesStation_aside.answer hc hb hs result body
  | event id body =>
    rw [hm] at h
    rw [receive_event hm]
    refine sparesStation_aside.onEventOf ?_ ?_ body <;> rintro rfl <;> cases h
  | other => exact sparesStation_aside.receive hm

theorem receive_sparesAccessPoint {f : Bytes} (h : (Message.ofFrame f).side? = some .sta) :
    Guarantees SparesAccessPoint (receive f : Act σ Unit) := by
  have hs : (Message.ofFrame f).scope ≤ .station := (Message.scope_of_side? h).le
  cases hm : Message.ofFrame f with
  | response id result body =>
    rw [hm] at hs
    rw [receive_response hm]
    exact answer_confined sparesAccessPoint_confined hs
  | event id body =>
    rw [hm] at hs
    rw [receive_event hm]
    exact onEventOf_confined sparesAccessPoint_confined hs body
  | other =>
    rw [hm] at h
    cases h

end Session

/-- What holds across a frame that is about one side, and across the work with the bus, holds across
a step that serves this side. -/
theorem Step.Serves.across {σ : Type} [Platform σ] {m : Step σ} {role : Role}
    {R : Session σ → Session σ → Prop} (h : m.Serves role) (hg : m.Genuine)
    (hb : m.before.Silent m.after → R m.before m.after)
    (hf : ∀ f, (Message.ofFrame f).side? = some role →
      Guarantees R (Session.receive f : Session.Act σ Unit)) : R m.before m.after := by
  unfold Genuine at hg
  rcases h with ht | ⟨f, ht, hs⟩
  · rw [ht] at hg
    exact hb hg
  · rw [ht] at hg
    have h := hf f hs m.before
    rwa [hg] at h

namespace Session

variable {σ : Type} [Platform σ]

/-- Whatever state the driver is in and however the bus answers: a frame about the access point,
data among them, does nothing to the station and the bootstrap, and a frame about the station
nothing to the access point and its clients. Neither do any number of them in a row. -/
theorem roles_separate (s : Session σ) :
    (∀ f, (Message.ofFrame f).side? = some .uap → s.SparesStation (receive f s).2) ∧
      (∀ f, (Message.ofFrame f).side? = some .sta → s.SparesAccessPoint (receive f s).2) ∧
      ∀ ms t, Path s ms t →
        ((∀ m ∈ ms, m.Serves .uap) → s.SparesStation t) ∧
        ((∀ m ∈ ms, m.Serves .sta) → s.SparesAccessPoint t) := by
  refine ⟨fun f h ↦ receive_sparesStation h s, fun f h ↦ receive_sparesAccessPoint h s, ?_⟩
  intro ms t h
  constructor
  · intro hs
    refine h.across fun m hm ↦ (hs m hm).across (h.genuine hm) ?_ fun f ↦ receive_sparesStation
    intro hb
    exact hb.footprint (fun _ ↦ rfl) nofun
  · intro hs
    refine h.across fun m hm ↦ (hs m hm).across (h.genuine hm) ?_ fun f ↦ receive_sparesAccessPoint
    intro hb
    exact hb.footprint (fun _ ↦ rfl) nofun

end Session

end SdioWlan
