import SdioWlan.Proofs.Apart

namespace SdioWlan.Session

variable {σ : Type}

theorem update_detached {g : Driver → Driver} (h : ∀ d, (g d).boot = d.boot) :
    Guarantees Detached (update g : Act σ Unit) := Footprint.update h

theorem report_detached {r : Report} (h : (Action.report r).initialized? = none) :
    Guarantees Detached (report r : Act σ Unit) := Footprint.record ⟨rfl, h⟩

theorem stack_detached (c : StackCall) : Guarantees Detached (stack c : Act σ Unit) :=
  Footprint.record ⟨rfl, rfl⟩

theorem setConnection_detached (c : Connection) :
    Guarantees Detached (setConnection c : Act σ Unit) := update_detached fun _ ↦ rfl

theorem takeScan_detached :
    Guarantees Detached (takeScan : Act σ Connection.ScanVerdict) :=
  .bind (Footprint.view _) fun _ ↦ (setConnection_detached _).bind fun _ ↦ .pure _

theorem reportNetworks_detached (networks : List Bss) :
    Guarantees Detached (reportNetworks networks : Act σ Unit) := by
  induction networks with
  | nil => exact report_detached rfl
  | cons n rest ih => exact (report_detached rfl).bind fun _ ↦ ih

variable [Platform σ]

theorem sendConnectScan_detached : Guarantees Detached (sendConnectScan : Act σ Unit) := by
  refine .bind (Footprint.view _) fun target ↦ .bind (Footprint.view _) fun time ↦ ?_
  exact .lift_bind fun block _ ↦ issue_detached rfl _ _

theorem connectFailed_detached (why : ConnectFailure) :
    Guarantees Detached (connectFailed why : Act σ Unit) := by
  refine .bind (update_detached fun _ ↦ rfl) fun _ ↦ .bind (Footprint.view _) fun next ↦ ?_
  refine (setConnection_detached _).bind fun _ ↦ ?_
  cases next.1 with
  | giveUp => exact report_detached rfl
  | rescan =>
    refine sendConnectScan_detached.tryCatch fun e ↦ .bind (Footprint.view _) fun _ ↦ ?_
    exact (setConnection_detached _).bind fun _ ↦ report_detached rfl

theorem associate_detached (b : Bss) : Guarantees Detached (associate b : Act σ Unit) := by
  refine .bind (Footprint.view _) fun c ↦ (setConnection_detached _).bind fun _ ↦ ?_
  refine .bind (Footprint.view _) fun target ↦ .lift_bind fun block _ ↦ ?_
  have hi : Guarantees Detached (do
      let secured := Params.addSecurity block b.security b.vendor b.rsn
      secured.1
      issue .associate .get secured.2.bytes : Act σ Unit) :=
    .lift_bind fun _ _ ↦ issue_detached rfl _ _
  exact .ite (fun _ ↦ .lift_bind fun key _ ↦ (issue_detached rfl _ _).bind fun _ ↦ hi) fun _ ↦ hi

theorem scanFailed_detached (verdict : Connection.ScanVerdict) (e : DriverError) :
    Guarantees Detached (scanFailed verdict e : Act σ Unit) := by
  cases verdict with
  | connect => exact connectFailed_detached _
  | plain => exact report_detached rfl
  | stale => exact .pure _

theorem onScan_detached (body : Bytes) : Guarantees Detached (onScan body : Act σ Unit) := by
  refine takeScan_detached.bind fun verdict ↦ ?_
  cases ScanReport.parse body with
  | error e => exact (scanFailed_detached _ _).bind fun _ ↦ .throw e
  | ok r =>
    cases verdict with
    | stale => exact .pure _
    | plain => exact reportNetworks_detached _
    | connect =>
      refine .bind (Footprint.view _) fun ssid ↦ ?_
      cases r.networks.find? (·.ssid == ssid) with
      | none => exact connectFailed_detached _
      | some b => exact (associate_detached b).tryCatch fun e ↦ connectFailed_detached _

theorem rejected_detached (why : ConnectFailure) :
    Guarantees Detached
      (do if (← view (·.connection.status)) = .connecting then connectFailed why : Act σ Unit) :=
  .bind (Footprint.view _) fun _ ↦ .ite (fun _ ↦ connectFailed_detached _) fun _ ↦ .pure _

theorem onAssociate_detached (body : Bytes) :
    Guarantees Detached (onAssociate body : Act σ Unit) := by
  refine .lift_bind fun capability _ ↦ ?_
  split
  · exact .pure _
  · exact rejected_detached _

theorem onKey_detached {s : Session σ} (h : ∀ c ∈ s.driver.channel.staged, c.id = .associate) :
    Detached s (onKey s).2 := by
  simp only [onKey, bind_apply, view_apply, update_apply]
  have hu : Detached s { s with driver := s.driver.clearStaged } := ⟨rfl, refl_of (Logs _) _⟩
  refine trans_of Detached hu ?_
  cases hs : s.driver.channel.staged with
  | none => exact refl_of Detached _
  | some c =>
    have hi : c.id = .associate := h c hs
    have hc : Guarantees Detached (sendCommand c : Act σ Unit) :=
      sendCommand_detached (by rw [hi]; decide) (by rw [hi]; rfl)
    exact hc.tryCatch (fun e ↦ connectFailed_detached _) _

theorem commandFailed_detached {id : CommandId} (h : id.boots = false) (e : DriverError) :
    Guarantees Detached (commandFailed id e : Act σ Unit) := by
  cases hc : id.connects with
  | false => exact fun s ↦ (apart_aside.commandFailed hc h e s).right
  | true =>
    cases id with
    | scan => exact takeScan_detached.bind fun _ ↦ scanFailed_detached _ _
    | supplicantPmk | associate => exact rejected_detached _
    | _ => cases hc

theorem commandDone_detached {id : CommandId} (h : id.boots = false) (hs : id ≠ .funcShutdown)
    (body : Bytes) {s : Session σ} (hk : ∀ c ∈ s.driver.channel.staged, c.id = .associate) :
    Detached s (commandDone id body s).2 := by
  cases hc : id.connects with
  | false => exact (apart_aside.commandDone hc h hs body s).right
  | true =>
    cases id with
    | scan => exact onScan_detached body s
    | associate => exact onAssociate_detached body s
    | supplicantPmk => exact onKey_detached hk
    | _ => cases hc

theorem onEventOf_detached (id : EventId) (body : Bytes) :
    Guarantees Detached (onEventOf id body : Act σ Unit) := by
  by_cases hd : id = .deauthenticated
  · rw [hd]
    refine .bind (update_detached fun _ ↦ rfl) fun _ ↦ ?_
    exact (stack_detached _).bind fun _ ↦ report_detached rfl
  by_cases hp : id = .portRelease
  · rw [hp]
    refine .bind (update_detached fun _ ↦ rfl) fun _ ↦ ?_
    exact (stack_detached _).bind fun _ ↦ report_detached rfl
  exact fun s ↦ (apart_aside.onEventOf hd hp body s).right

theorem startScan_detached (params : Except DriverError Tlv.Block) :
    Guarantees Detached (startScan params : Act σ Unit) := by
  refine ensureReady_routine.bind fun _ ↦ .bind (Footprint.view _) fun _ ↦ ?_
  exact .ite (fun _ ↦ .throw _) fun _ ↦ .lift_bind fun block _ ↦ issue_detached rfl _ _

theorem connect_detached (ssid passphrase : Bytes) :
    Guarantees Detached (connect ssid passphrase : Act σ Unit) := by
  refine ensureReady_routine.bind fun _ ↦ .bind (Footprint.view _) fun _ ↦
    .lift_bind fun r _ ↦ ?_
  refine (setConnection_detached _).bind fun _ ↦ .bind (update_detached fun _ ↦ rfl) fun _ ↦ ?_
  refine sendConnectScan_detached.tryCatch fun e ↦ .bind (Footprint.view _) fun _ ↦ ?_
  exact (setConnection_detached _).bind fun _ ↦ .throw e

theorem perform_detached {c : Call} (hi : c ≠ .init) (hv : c ≠ .serviceInterrupt) :
    Guarantees Detached (perform c : Act σ Unit) := by
  cases c with
  | init => exact absurd rfl hi
  | serviceInterrupt => exact absurd rfl hv
  | connect ssid passphrase => exact connect_detached ssid passphrase
  | scan | scanSsid => exact startScan_detached _
  | _ =>
    have h : Guarantees Apart (perform _ : Act σ Unit) :=
      apart_aside.perform (by simp) (by simp) (by simp) hi hv
    exact fun s ↦ (h s).right

end SdioWlan.Session
