import SdioWlan.Proofs.Bootstrap.Basic
import SdioWlan.Proofs.DataFrame
import SdioWlan.Proofs.Routine
import SdioWlan.Proofs.Trace

namespace SdioWlan

namespace Session

variable {σ : Type} [Platform σ]

theorem commandFailed_of_boots {id : CommandId} (h : id.boots = true) (e : DriverError) :
    (commandFailed id e : Act σ Unit) =
      (do if ← view (·.boot.isReady) then pure () else failBoot e) := by
  cases id with
  | funcInit | macControl | getHwSpec | macAddr => rfl
  | _ => cases h

theorem commandDone_of_boots {id : CommandId} (h : id.boots = true) (body : Bytes) :
    (commandDone id body : Act σ Unit) = onBoot id body := by
  cases id with
  | funcInit | macControl | getHwSpec | macAddr => rfl
  | _ => cases h

structure Aside (R : Session σ → Session σ → Prop) : Prop where
  report {r : Report} (hr : r.scope ≠ .station) : Guarantees R (report r : Act σ Unit)
  stack {c : StackCall} (hc : c.scope ≠ .station) : Guarantees R (stack c : Act σ Unit)
  update {g : Driver → Driver} (hs : ∀ d, (g d).station = d.station)
    (hb : ∀ d, (g d).boot = d.boot) : Guarantees R (update g : Act σ Unit)
  sendCommand {c : Command} (hk : c.id ∈ CommandId.known) (hc : c.id.connects = false)
    (hb : c.id.boots = false) : Guarantees R (sendCommand c : Act σ Unit)
  eraseLease (mac : Mac) : Guarantees R (eraseLease mac : Act σ (Option Lease))
  transmit (payload : Bytes) (role : Role) : Guarantees R (transmit payload role : Act σ Unit)

/-- The station and the bootstrap stay as they are in such work, and no command is written by which
either of them gets on. -/
theorem footprint_aside {P : Action → Prop}
    (hr : ∀ r : Report, r.scope ≠ .station → P (.report r))
    (hs : ∀ c : StackCall, c.scope ≠ .station → P (.stack c))
    (ha : ∀ a, (∀ w ∈ (Action.access a).command?, w.1.connects = false ∧ w.1.boots = false) →
      P (.access a)) :
    Aside (Footprint (fun d ↦ (d.station, d.boot)) P : Session σ → Session σ → Prop) where
  report h := Footprint.record (hr _ h)
  stack h := Footprint.record (hs _ h)
  update h h' := Footprint.update fun d ↦ Prod.ext (h d) (h' d)
  sendCommand {c} hk hc hb := by
    refine sendCommand_footprint (fun d o hh ↦ ?_) fun base o ↦ ha _ fun w hw ↦ ?_
    · exact Prod.ext (Driver.station_sent hh hc o) (d.boot_sent c o)
    · cases (c.command?_written hk base o).symm.trans hw
      exact ⟨hc, hb⟩
  eraseLease mac := Footprint.eraseLease fun _ ↦ hs _ nofun
  transmit := transmit_footprint (fun _ _ ↦ rfl) (fun _ _ ↦ ha _ nofun) fun hp addr o ↦
    ha _ fun w hw ↦ by
      simp only [Action.command?, DataFrame.commandOf?_build hp, Option.map_none] at hw
      cases hw

theorem apart_aside : Aside (Apart (σ := σ)) := by
  refine footprint_aside (fun r hr ↦ ?_) (fun c hc ↦ ⟨?_, rfl, rfl⟩) fun a ↦ Action.apart_of_access
  · cases r with
    | initialized | scanResult | connected | disconnected => exact absurd rfl hr
    | _ => exact ⟨rfl, rfl, rfl⟩
  · cases c with
    | linkUp role | linkDown role =>
      cases role with
      | sta => exact absurd rfl hc
      | uap => rfl
    | _ => rfl

namespace Aside

variable {R : Session σ → Session σ → Prop} (h : Aside R)
include h

theorem relays : Relays R where
  transmit := h.transmit
  count f role := h.update (fun _ ↦ by cases role <;> rfl) fun _ ↦ by cases role <;> rfl
  deliver _ _ := h.stack nofun

variable [IsPreorder (Session σ) R]

theorem issue {id : CommandId} (hc : id.connects = false) (hb : id.boots = false)
    (action : CommandAction) (payload : Bytes) :
    Guarantees R (issue id action payload : Act σ Unit) :=
  issue_guarantees hc (fun _ hi hk ↦ h.sendCommand (hi ▸ hk) (hi ▸ hc) (hi ▸ hb)) action payload

theorem onClientLeft (body : Bytes) : Guarantees R (onClientLeft body : Act σ Unit) := by
  refine .bind (.lift _) fun mac ↦ .bind (view_routine _) fun left ↦ ?_
  cases left with
  | none => exact .pure _
  | some left =>
    refine .bind (h.update (fun _ ↦ rfl) fun _ ↦ rfl) fun _ ↦ ?_
    exact .bind (h.eraseLease mac) fun _ ↦ h.report nofun

theorem onClientJoined (body : Bytes) : Guarantees R (onClientJoined body : Act σ Unit) := by
  refine .bind (.lift _) fun mac ↦ .bind (view_routine _) fun joined ↦ ?_
  cases joined with
  | none => exact h.issue rfl rfl _ _
  | some joined => exact h.update (fun _ ↦ rfl) fun _ ↦ rfl

/-- Only two events concern the station, and none the bootstrap. -/
theorem onEventOf {id : EventId} (hd : id ≠ .deauthenticated) (hp : id ≠ .portRelease)
    (body : Bytes) : Guarantees R (onEventOf id body : Act σ Unit) := by
  cases id with
  | deauthenticated => exact absurd rfl hd
  | portRelease => exact absurd rfl hp
  | uapStaDeauth => exact h.onClientLeft body
  | uapStaAssoc => exact h.onClientJoined body
  | uapBssStart =>
    refine .bind (h.update (fun _ ↦ rfl) fun _ ↦ rfl) fun _ ↦ ?_
    exact .bind (h.stack nofun) fun _ ↦ h.report nofun
  | addba => exact h.issue rfl rfl _ _
  | _ => exact .pure _

theorem commandFailed {id : CommandId} (hc : id.connects = false) (hb : id.boots = false)
    (e : DriverError) : Guarantees R (commandFailed id e : Act σ Unit) := by
  cases id with
  | scan | supplicantPmk | associate => cases hc
  | funcInit | macControl | getHwSpec | macAddr => cases hb
  | sysConfigure | bssStart => exact h.report nofun
  | _ => exact .pure _

theorem commandDone {id : CommandId} (hc : id.connects = false) (hb : id.boots = false)
    (hs : id ≠ .funcShutdown) (body : Bytes) :
    Guarantees R (commandDone id body : Act σ Unit) := by
  cases id with
  | scan | supplicantPmk | associate => cases hc
  | funcInit | macControl | getHwSpec | macAddr => cases hb
  | funcShutdown => exact absurd rfl hs
  | sysConfigure =>
    exact (h.issue rfl rfl _ _).tryCatch fun _ ↦ h.report nofun
  | bssStop =>
    refine .bind (h.update (fun _ ↦ rfl) fun _ ↦ rfl) fun _ ↦ ?_
    exact .bind (h.stack nofun) fun _ ↦ h.report nofun
  | _ => exact .pure _

theorem answer {id : CommandId} (hc : id.connects = false) (hb : id.boots = false)
    (hs : id ≠ .funcShutdown) (result : UInt8) (body : Bytes) :
    Guarantees R (answer id result body : Act σ Unit) := by
  refine .bind (h.update (fun _ ↦ rfl) fun _ ↦ rfl) fun _ ↦ ?_
  exact .ite (fun _ ↦ (h.commandFailed hc hb _).bind fun _ ↦ .throw _) fun _ ↦
    h.commandDone hc hb hs body

/-- Data, and frames that do not say anything. -/
theorem receive {f : Bytes} (hf : Message.ofFrame f = .other) :
    Guarantees R (receive f : Act σ Unit) := by
  by_cases hd : f[2]? = some FrameKind.data.code
  · rw [receive_data hd]
    exact h.relays.onData f
  · obtain hr | hr := receive_other (σ := σ) hf hd
    · rw [hr]
      exact .pure ()
    · rw [hr]
      exact .throw _

theorem perform {c : Call} (hc : ∀ ssid passphrase, c ≠ .connect ssid passphrase)
    (hs : ∀ channels maxTime, c ≠ .scan channels maxTime)
    (hn : ∀ ssid maxTime, c ≠ .scanSsid ssid maxTime) (hi : c ≠ .init)
    (hv : c ≠ .serviceInterrupt) : Guarantees R (perform c : Act σ Unit) := by
  cases c with
  | init => exact absurd rfl hi
  | shutdown => exact h.issue rfl rfl _ _
  | serviceInterrupt => exact absurd rfl hv
  | scan channels maxTime => exact absurd rfl (hs _ _)
  | scanSsid ssid maxTime => exact absurd rfl (hn _ _)
  | connect ssid passphrase => exact absurd rfl (hc _ _)
  | disconnect =>
    refine .bind (view_routine _) fun _ ↦ ?_
    exact .ite (fun _ ↦ h.issue rfl rfl _ _) fun _ ↦ .pure _
  | startAp settings =>
    refine ensureReady_routine.bind fun _ ↦ .lift_bind fun block _ ↦ ?_
    exact .ite (fun _ ↦ h.issue rfl rfl _ _) fun _ ↦ h.issue rfl rfl _ _
  | stopAp | deauthClient mac => exact ensureReady_routine.bind fun _ ↦ h.issue rfl rfl _ _
  | sendData payload role => exact h.relays.sendData _ _
  | leased mac lease =>
    refine .bind (view_routine _) fun _ ↦ ?_
    exact .ite (fun _ ↦ h.report nofun) fun _ ↦ .pure _

end Aside

end Session

end SdioWlan
