import Mathlib.Data.Nat.Basic
import Mathlib.Order.Basic
import SdioWlan.Proofs.Station.Basic
import SdioWlan.Proofs.Trace

namespace SdioWlan

structure Wiring where
  base : UInt32
  readable : PortSet
  writable : PortSet
  nextRead : DataPort
  nextWrite : DataPort

def Driver.wiring (d : Driver) : Wiring :=
  ⟨d.base, d.ports.readable, d.ports.writable, d.ports.nextRead, d.ports.nextWrite⟩

/-- How far work can reach. The bootstrap and what the station does come first, then what an access
point shows of itself, then its clients, and at last the counters. -/
inductive Scope
  | station
  | accessPoint
  | clients
  | counters
  deriving DecidableEq

namespace Scope

def level : Scope → Nat
  | station => 0
  | accessPoint => 1
  | clients => 2
  | counters => 3

instance : Preorder Scope := .lift level

instance : DecidableLE Scope := fun a b ↦ inferInstanceAs (Decidable (a.level ≤ b.level))

theorem station_le (k : Scope) : station ≤ k := Nat.zero_le k.level

theorem eq_station_of_le {k : Scope} (h : k ≤ station) : k = station := by
  cases k with
  | station => rfl
  | _ => exact absurd h (by decide)

theorem le_counters (k : Scope) : k ≤ counters := by cases k <;> decide

end Scope

def Report.scope : Report → Scope
  | .initialized _ | .scanResult _ | .connected _ | .disconnected => .station
  | .apStarted _ | .apStopped => .accessPoint
  | .clientConnected _ _ | .clientDisconnected _ _ => .clients

def StackCall.scope : StackCall → Scope
  | .interfaceUp _ | .linkUp .sta | .linkDown .sta => .station
  | .linkUp .uap | .linkDown .uap => .accessPoint
  | .eraseLease _ _ => .clients
  | .deliver _ _ => .counters

def CommandId.scope : CommandId → Scope
  | funcShutdown | bssStop => .clients
  | macAddr | sysConfigure | bssStart => .accessPoint
  | _ => .station

def EventId.scope : EventId → Scope
  | uapStaDeauth | uapStaAssoc => .clients
  | uapBssStart => .accessPoint
  | _ => .station

def Message.scope : Message → Scope
  | .response id result _ => if result = 0 ∨ id.scope ≤ .accessPoint then id.scope else .station
  | .event id _ => id.scope
  | .other => .counters

theorem CommandId.scope_le_clients (id : CommandId) : id.scope ≤ .clients := by
  unfold scope
  split <;> decide

theorem EventId.scope_le_clients (id : EventId) : id.scope ≤ .clients := by
  unfold scope
  split <;> decide

theorem Message.scope_le_clients {m : Message} (h : m ≠ .other) : m.scope ≤ .clients := by
  cases m with
  | response id result body =>
    rw [scope]
    split
    · exact id.scope_le_clients
    · exact Scope.station_le _
  | event id body => exact id.scope_le_clients
  | other => exact absurd rfl h

def Call.scope : Call → Scope
  | .leased _ _ => .clients
  | .sendData _ _ => .counters
  | _ => .station

/-- What work of a scope has to leave alone in a driver. All else is blank. -/
def Driver.beyond (d : Driver) : Scope → Driver
  | .station => { d with
      channel := {}, boot := {}, connection := .new 0, sta := d.sta.carrierOff
      ports := { d.ports with endPort := 0 } }
  | .accessPoint => { d with
      channel := {}, boot := {}, connection := .new 0, mac := .zero
      sta := d.sta.carrierOff.setMac .zero, uap := d.uap.carrierOff.setMac .zero
      ports := { d.ports with endPort := 0 } }
  | .clients => { d with
      channel := {}, boot := {}, connection := .new 0, mac := .zero
      sta := d.sta.carrierOff.setMac .zero, uap := d.uap.carrierOff.setMac .zero
      clients := .empty 0, ports := { d.ports with endPort := 0 } }
  | .counters => { d with
      channel := {}, boot := {}, connection := .new 0, mac := .zero
      sta := { role := .sta }, uap := { role := .uap }
      clients := .empty 0, ports := { d.ports with endPort := 0 } }

@[simp] theorem Driver.wiring_beyond (d : Driver) (k : Scope) : (d.beyond k).wiring = d.wiring := by
  cases k <;> rfl

theorem Driver.beyond_beyond (d : Driver) {j k : Scope} (h : j ≤ k) :
    (d.beyond j).beyond k = d.beyond k := by
  cases j <;> cases k <;> first
    | rfl
    | exact absurd h (by decide)

theorem Driver.beyond_sent (d : Driver) (c : Command) (o : Except Errno Unit) (k : Scope) :
    (d.sent c o).beyond k = d.beyond k := by
  unfold sent
  split <;> cases k <;> rfl

namespace Session

variable {σ α : Type}

theorem view_routine {R : Session σ → Session σ → Prop} [IsPreorder (Session σ) R]
    (g : Driver → α) : Guarantees R (view g : Act σ α) := fun s ↦ refl_of R s

theorem ensureReady_routine {R : Session σ → Session σ → Prop} [IsPreorder (Session σ) R] :
    Guarantees R (ensureReady : Act σ Unit) :=
  .bind (view_routine _) fun _ ↦ .ite (fun _ ↦ .pure _) fun _ ↦ .throw _

theorem delivery_guarantees {R : Session σ → Session σ → Prop} [IsPreorder (Session σ) R]
    (hc : ∀ f role, Guarantees R (count f role : Act σ Unit))
    (hs : ∀ payload role, Guarantees R (stack (.deliver payload role) : Act σ Unit))
    (route : DataFrame.Route) (r : DataFrame.Received) :
    Guarantees R (if route.delivers then do
      count (NetDevice.countRx · r.payload.length) r.role
      stack (.deliver r.payload r.role) else pure () : Act σ Unit) :=
  .ite (fun _ ↦ (hc _ _).bind fun _ ↦ hs _ _) fun _ ↦ .pure _

variable [Platform σ]

structure Relays (R : Session σ → Session σ → Prop) : Prop where
  transmit (payload : Bytes) (role : Role) : Guarantees R (transmit payload role : Act σ Unit)
  count (f : NetDevice → NetDevice) (role : Role) : Guarantees R (count f role : Act σ Unit)
  deliver (payload : Bytes) (role : Role) :
    Guarantees R (stack (.deliver payload role) : Act σ Unit)

namespace Relays

variable {R : Session σ → Session σ → Prop} [IsPreorder (Session σ) R] (h : Relays R)
include h

theorem sendData (payload : Bytes) (role : Role) :
    Guarantees R (Session.sendData payload role : Act σ Unit) := by
  refine ensureReady_routine.bind fun _ ↦ ?_
  refine .bind ((h.transmit _ _).tryCatch fun e ↦ ?_) fun _ ↦ h.count _ _
  exact (h.count _ _).bind fun _ ↦ .throw e

theorem forward (payload : Bytes) : Guarantees R (Session.forward payload : Act σ Unit) :=
  ((h.sendData _ _).bind fun _ ↦ h.count _ _).tryCatch fun _ ↦ h.count _ _

theorem onData (frame : Bytes) : Guarantees R (Session.onData frame : Act σ Unit) := by
  unfold Session.onData
  cases DataFrame.parse frame with
  | error e => exact h.count _ _
  | ok r =>
    refine .bind (view_routine _) fun route ↦ ?_
    have hd := delivery_guarantees (σ := σ) h.count h.deliver route r
    exact .ite (fun _ ↦ (h.forward _).bind fun _ ↦ hd) fun _ ↦ hd

end Relays

structure Confined (k : Scope) (R : Session σ → Session σ → Prop) : Prop where
  report {r : Report} (hr : r.scope ≤ k) : Guarantees R (report r : Act σ Unit)
  stack {c : StackCall} (hc : c.scope ≤ k) : Guarantees R (stack c : Act σ Unit)
  update {g : Driver → Driver} (hg : ∀ d, (g d).beyond k = d.beyond k) :
    Guarantees R (update g : Act σ Unit)
  sendCommand (c : Command) : Guarantees R (sendCommand c : Act σ Unit)
  eraseLease (hk : .clients ≤ k) (mac : Mac) :
    Guarantees R (eraseLease mac : Act σ (Option Lease))

/-- What holds across each piece of any such work, whatever its scope. -/
structure Routine (R : Session σ → Session σ → Prop) : Prop where
  report (r : Report) : Guarantees R (report r : Act σ Unit)
  stack (c : StackCall) : Guarantees R (stack c : Act σ Unit)
  update {g : Driver → Driver} (hg : ∀ d, (g d).wiring = d.wiring) :
    Guarantees R (update g : Act σ Unit)
  sendCommand (c : Command) : Guarantees R (sendCommand c : Act σ Unit)
  eraseLease (mac : Mac) : Guarantees R (eraseLease mac : Act σ (Option Lease))

variable {R : Session σ → Session σ → Prop} {j k : Scope} {β : Type} {f : Driver → β}
  {P : Action → Prop}

theorem transmit_footprint (hf : ∀ (d : Driver) ports, f { d with ports } = f d)
    (hr : ∀ addr o, P (.access (.readByte addr o)))
    (hw : ∀ {payload role packet}, DataFrame.build payload role = .ok packet →
      ∀ addr o, P (.access (.writeBlock addr .fifo packet.data o)))
    (payload : Bytes) (role : Role) :
    Guarantees (Footprint f P) (transmit payload role : Act σ Unit) := by
  refine .lift_bind fun packet hp ↦ .bind (view_routine _) fun b ↦ ?_
  refine (Footprint.onPorts hf (PortAllocator.acquire_logs hr b)).bind fun port ↦ ?_
  refine .bind (view_routine _) fun address ↦ Footprint.onLink ?_
  exact (Link.writeBlock_logs (hw hp address)).adapt

/-- What a driver shows beyond a scope stays in work within the scope. -/
theorem footprint_confined (hf : ∀ d, f (Driver.beyond d k) = f d)
    (hr : ∀ r : Report, r.scope ≤ k → P (.report r))
    (hs : ∀ c : StackCall, c.scope ≤ k → P (.stack c))
    (hw : ∀ (c : Command) base o, P (c.written base o)) :
    Confined k (Footprint f P : Session σ → Session σ → Prop) where
  report hk := Footprint.record (hr _ hk)
  stack hk := Footprint.record (hs _ hk)
  update hg := Footprint.update fun d ↦ by rw [← hf, hg, hf]
  sendCommand c := by
    refine sendCommand_footprint (fun d o _ ↦ ?_) (hw c)
    rw [← hf, Driver.beyond_sent, hf]
  eraseLease hk mac := Footprint.eraseLease fun _ ↦ hs _ hk

theorem Routine.confined (h : Routine R) : Confined k R where
  report _ := h.report _
  stack _ := h.stack _
  update {g} hg := h.update fun d ↦ by
    rw [← Driver.wiring_beyond _ k, hg, Driver.wiring_beyond]
  sendCommand := h.sendCommand
  eraseLease _ := h.eraseLease

/-- What allows for much work allows for less. -/
theorem Confined.mono (h : Confined k R) (hj : j ≤ k) : Confined j R where
  report hr := h.report (hr.trans hj)
  stack hc := h.stack (hc.trans hj)
  update {g} hg := h.update fun d ↦ by
    rw [← Driver.beyond_beyond _ hj, hg, Driver.beyond_beyond _ hj]
  sendCommand := h.sendCommand
  eraseLease hk := h.eraseLease (hk.trans hj)

section Station

variable (h : Confined .station R)
include h

theorem setConnection_confined (c : Connection) :
    Guarantees R (setConnection c : Act σ Unit) := h.update fun _ ↦ rfl

variable [IsPreorder (Session σ) R]

theorem takeScan_confined : Guarantees R (takeScan : Act σ Connection.ScanVerdict) :=
  .bind (view_routine _) fun _ ↦ (setConnection_confined h _).bind fun _ ↦ .pure _

theorem reportNetworks_confined (networks : List Bss) :
    Guarantees R (reportNetworks networks : Act σ Unit) := by
  induction networks with
  | nil => exact h.report le_rfl
  | cons n rest ih => exact (h.report le_rfl).bind fun _ ↦ ih

theorem failBoot_confined (e : DriverError) : Guarantees R (failBoot e : Act σ Unit) :=
  .bind (h.update fun _ ↦ rfl) fun _ ↦ h.report le_rfl

theorem issue_confined (id : CommandId) (action : CommandAction) (payload : Bytes) :
    Guarantees R (issue id action payload : Act σ Unit) := by
  refine .bind (view_routine _) fun target ↦ .lift_bind fun c _ ↦ ?_
  cases gate id target.security with
  | sendNow => exact h.sendCommand c
  | stage => exact h.update fun _ ↦ rfl

theorem pumpBootstrap_confined : Guarantees R (pumpBootstrap : Act σ Unit) := by
  refine .bind (view_routine _) fun next ↦ .bind (h.update fun _ ↦ rfl) fun _ ↦ ?_
  cases next.1 with
  | none => exact .pure _
  | some id =>
    exact (issue_confined h id _ _).tryCatch fun e ↦ (failBoot_confined h e).bind fun _ ↦ .throw e

/-- What follows on power is confined but for where the ports start and that the bootstrap
starts. -/
theorem afterPowerUp_confined
    (hu : ∀ base, Guarantees R (update fun d ↦ { d with base, boot := .start } : Act σ Unit))
    (base : Except DriverError UInt32) : Guarantees R (afterPowerUp base : Act σ Unit) := by
  cases base with
  | error e => exact (failBoot_confined h e).bind fun _ ↦ .throw e
  | ok base => exact (hu base).bind fun _ ↦ pumpBootstrap_confined h

theorem sendConnectScan_confined : Guarantees R (sendConnectScan : Act σ Unit) :=
  .bind (view_routine _) fun _ ↦ .bind (view_routine _) fun _ ↦
    .lift_bind fun _ _ ↦ issue_confined h _ _ _

theorem connectFailed_confined (why : ConnectFailure) :
    Guarantees R (connectFailed why : Act σ Unit) := by
  refine .bind (h.update fun _ ↦ rfl) fun _ ↦ .bind (view_routine _) fun next ↦ ?_
  refine (setConnection_confined h _).bind fun _ ↦ ?_
  cases next.1 with
  | giveUp => exact h.report le_rfl
  | rescan =>
    refine (sendConnectScan_confined h).tryCatch fun e ↦ .bind (view_routine _) fun _ ↦ ?_
    exact (setConnection_confined h _).bind fun _ ↦ h.report le_rfl

theorem associate_confined (b : Bss) : Guarantees R (associate b : Act σ Unit) := by
  refine .bind (view_routine _) fun c ↦ (setConnection_confined h _).bind fun _ ↦ ?_
  refine .bind (view_routine _) fun target ↦ .lift_bind fun block _ ↦ ?_
  have hi : Guarantees R (do
      let secured := Params.addSecurity block b.security b.vendor b.rsn
      secured.1
      issue .associate .get secured.2.bytes : Act σ Unit) :=
    .lift_bind fun _ _ ↦ issue_confined h _ _ _
  exact .ite (fun _ ↦ .lift_bind fun key _ ↦ (issue_confined h _ _ _).bind fun _ ↦ hi) fun _ ↦ hi

theorem scanFailed_confined (verdict : Connection.ScanVerdict) (e : DriverError) :
    Guarantees R (scanFailed verdict e : Act σ Unit) := by
  cases verdict with
  | connect => exact connectFailed_confined h _
  | plain => exact h.report le_rfl
  | stale => exact .pure _

theorem pickNetwork_confined (networks : List Bss) :
    Guarantees R (pickNetwork networks : Act σ Unit) := by
  refine .bind (view_routine _) fun ssid ↦ ?_
  cases networks.find? (·.ssid == ssid) with
  | none => exact connectFailed_confined h _
  | some b => exact (associate_confined h b).tryCatch fun _ ↦ connectFailed_confined h _

theorem onScan_confined (body : Bytes) : Guarantees R (onScan body : Act σ Unit) := by
  refine (takeScan_confined h).bind fun verdict ↦ ?_
  cases ScanReport.parse body with
  | error e => exact (scanFailed_confined h _ _).bind fun _ ↦ .throw e
  | ok r =>
    cases verdict with
    | stale => exact .pure _
    | plain => exact reportNetworks_confined h _
    | connect => exact pickNetwork_confined h _

theorem rejected_confined (why : ConnectFailure) :
    Guarantees R
      (do if (← view (·.connection.status)) = .connecting then connectFailed why : Act σ Unit) :=
  .bind (view_routine _) fun _ ↦ .ite (fun _ ↦ connectFailed_confined h _) fun _ ↦ .pure _

theorem onAssociate_confined (body : Bytes) :
    Guarantees R (onAssociate body : Act σ Unit) := by
  refine .lift_bind fun capability _ ↦ ?_
  cases AssocRefusal.ofCapability? capability with
  | none => exact .pure _
  | some r => exact rejected_confined h _

theorem onKey_confined : Guarantees R (onKey : Act σ Unit) := by
  refine .bind (view_routine _) fun staged ↦ .bind (h.update fun _ ↦ rfl) fun _ ↦ ?_
  cases staged with
  | none => exact .pure _
  | some c => exact (h.sendCommand c).tryCatch fun _ ↦ connectFailed_confined h _

/-- The end of what a step of the bootstrap brings about, once its response is understood. -/
theorem advanceBoot_confined (id : CommandId) : Guarantees R (do
    let advanced ← view (·.boot.advance id)
    update fun d ↦ { d with boot := advanced.2 }
    match advanced.1 with
    | .next _ => pumpBootstrap
    | .done =>
      let mac ← view (·.mac)
      stack (.interfaceUp mac)
      report (.initialized (.ok mac))
    | .notMine => pure () : Act σ Unit) := by
  refine .bind (view_routine _) fun advanced ↦ .bind (h.update fun _ ↦ rfl) fun _ ↦ ?_
  cases advanced.1 with
  | next c => exact pumpBootstrap_confined h
  | done =>
    exact .bind (view_routine _) fun _ ↦ (h.stack le_rfl).bind fun _ ↦ h.report le_rfl
  | notMine => exact .pure _

theorem startScan_confined (params : Except DriverError Tlv.Block) :
    Guarantees R (startScan params : Act σ Unit) := by
  refine ensureReady_routine.bind fun _ ↦ .bind (view_routine _) fun status ↦ ?_
  exact .ite (fun _ ↦ .throw _) fun _ ↦ .lift_bind fun _ _ ↦ issue_confined h _ _ _

theorem connect_confined (ssid passphrase : Bytes) :
    Guarantees R (connect ssid passphrase : Act σ Unit) := by
  refine ensureReady_routine.bind fun _ ↦ .bind (view_routine _) fun _ ↦ .lift_bind fun r _ ↦ ?_
  refine (setConnection_confined h _).bind fun _ ↦ .bind (h.update fun _ ↦ rfl) fun _ ↦ ?_
  refine (sendConnectScan_confined h).tryCatch fun e ↦ .bind (view_routine _) fun _ ↦ ?_
  exact (setConnection_confined h _).bind fun _ ↦ .throw e

theorem startAp_confined (settings : ApSettings) :
    Guarantees R (startAp settings : Act σ Unit) := by
  refine ensureReady_routine.bind fun _ ↦ .lift_bind fun block _ ↦ ?_
  exact .ite (fun _ ↦ issue_confined h _ _ _) fun _ ↦ issue_confined h _ _ _

end Station

theorem count_confined (h : Confined .counters R) (f : NetDevice → NetDevice) (role : Role) :
    Guarantees R (count f role : Act σ Unit) :=
  h.update fun _ ↦ by cases role <;> rfl

variable [IsPreorder (Session σ) R]

theorem learn_confined (h : Confined k R) {id : CommandId} (hk : id.scope ≤ k) (body : Bytes) :
    Guarantees R (learn id body : Act σ Unit) := by
  cases id with
  | getHwSpec => exact .bind (.lift _) fun _ ↦ (h.mono hk).update fun _ ↦ rfl
  | macAddr => exact .bind (.lift _) fun _ ↦ (h.mono hk).update fun _ ↦ rfl
  | _ => exact .pure _

theorem onBoot_confined (h : Confined k R) {id : CommandId} (hk : id.scope ≤ k) (body : Bytes) :
    Guarantees R (onBoot id body : Act σ Unit) :=
  (learn_confined h hk body).bind fun _ ↦ advanceBoot_confined (h.mono k.station_le) id

theorem onShutdown_confined (h : Confined .clients R) :
    Guarantees R (onShutdown : Act σ Unit) :=
  .bind (h.update fun _ ↦ rfl) fun _ ↦ h.report (by decide)

theorem onStopped_confined (h : Confined .clients R) : Guarantees R (onStopped : Act σ Unit) :=
  .bind (h.update fun _ ↦ rfl) fun _ ↦ (h.stack (by decide)).bind fun _ ↦ h.report (by decide)

theorem commandFailed_confined (h : Confined k R) {id : CommandId}
    (hk : id.scope ≤ k ∨ ¬ id.scope ≤ .accessPoint) (e : DriverError) :
    Guarantees R (commandFailed id e : Act σ Unit) := by
  have hs := h.mono k.station_le
  cases id with
  | funcInit | macControl | getHwSpec | macAddr =>
    exact .bind (view_routine _) fun _ ↦ .ite (fun _ ↦ .pure _) fun _ ↦ failBoot_confined hs e
  | scan => exact (takeScan_confined hs).bind fun _ ↦ scanFailed_confined hs _ _
  | supplicantPmk | associate => exact rejected_confined hs _
  | sysConfigure | bssStart => exact h.report (hk.resolve_right fun hn ↦ hn le_rfl)
  | _ => exact .pure _

theorem commandDone_confined (h : Confined k R) {id : CommandId} (hk : id.scope ≤ k)
    (body : Bytes) : Guarantees R (commandDone id body : Act σ Unit) := by
  have hs := h.mono k.station_le
  cases id with
  | funcInit | macControl | getHwSpec | macAddr => exact onBoot_confined h hk body
  | funcShutdown => exact onShutdown_confined (h.mono hk)
  | scan => exact onScan_confined hs body
  | associate => exact onAssociate_confined hs body
  | supplicantPmk => exact onKey_confined hs
  | sysConfigure => exact (issue_confined hs _ _ _).tryCatch fun _ ↦ h.report hk
  | bssStop => exact onStopped_confined (h.mono hk)
  | _ => exact .pure _

theorem onClientLeft_confined (h : Confined .clients R) (body : Bytes) :
    Guarantees R (onClientLeft body : Act σ Unit) := by
  refine .lift_bind fun mac _ ↦ .bind (view_routine _) fun left ↦ ?_
  cases left with
  | none => exact .pure _
  | some left =>
    refine .bind (h.update fun _ ↦ rfl) fun _ ↦ ?_
    exact .bind (h.eraseLease le_rfl mac) fun _ ↦ h.report le_rfl

theorem onClientJoined_confined (h : Confined .clients R) (body : Bytes) :
    Guarantees R (onClientJoined body : Act σ Unit) := by
  refine .lift_bind fun mac _ ↦ .bind (view_routine _) fun joined ↦ ?_
  cases joined with
  | none => exact issue_confined (h.mono (by decide)) _ _ _
  | some joined => exact h.update fun _ ↦ rfl

theorem onEventOf_confined (h : Confined k R) {id : EventId} (hk : id.scope ≤ k) (body : Bytes) :
    Guarantees R (onEventOf id body : Act σ Unit) := by
  cases id with
  | deauthenticated | portRelease | uapBssStart =>
    have hm := h.mono hk
    refine .bind (hm.update fun _ ↦ rfl) fun _ ↦ ?_
    exact (hm.stack le_rfl).bind fun _ ↦ hm.report le_rfl
  | uapStaDeauth => exact onClientLeft_confined (h.mono hk) body
  | uapStaAssoc => exact onClientJoined_confined (h.mono hk) body
  | addba => exact issue_confined (h.mono k.station_le) _ _ _
  | _ => exact .pure _

theorem leased_confined (h : Confined .clients R) (mac : Mac) (lease : Lease) :
    Guarantees R (leased mac lease : Act σ Unit) :=
  .bind (view_routine _) fun _ ↦ .ite (fun _ ↦ h.report le_rfl) fun _ ↦ .pure _

/-- Whatever a message says, dealing with it stays within its scope. -/
theorem answer_confined (h : Confined k R) {id : CommandId} {result : UInt8} {body : Bytes}
    (hk : (Message.response id result body).scope ≤ k) :
    Guarantees R (answer id result body : Act σ Unit) := by
  refine .bind ((h.mono k.station_le).update fun _ ↦ rfl) fun _ ↦ .ite (fun hr ↦ ?_) fun hr ↦ ?_
  · refine (commandFailed_confined h ?_ _).bind fun _ ↦ .throw _
    by_cases ha : id.scope ≤ .accessPoint
    · exact .inl (by simpa only [Message.scope, ha, or_true, if_true] using hk)
    · exact .inr ha
  · have hz : result = 0 := not_not.mp hr
    exact commandDone_confined h (by simpa only [Message.scope, hz, true_or, if_true] using hk) body

/-- A frame is dealt with within the scope of what it says. What data does is shown elsewhere. -/
theorem receive_confined (h : Confined k R) {f : Bytes}
    (hk : Message.ofFrame f ≠ .other → (Message.ofFrame f).scope ≤ k)
    (hd : f[2]? = some FrameKind.data.code → Guarantees R (onData f : Act σ Unit)) :
    Guarantees R (receive f : Act σ Unit) := by
  cases hm : Message.ofFrame f with
  | response id result body =>
    rw [hm] at hk
    rw [receive_response hm]
    exact answer_confined h (hk (by simp))
  | event id body =>
    rw [hm] at hk
    rw [receive_event hm]
    exact onEventOf_confined h (hk (by simp)) body
  | other =>
    by_cases hf : f[2]? = some FrameKind.data.code
    · rw [receive_data hf]
      exact hd hf
    · obtain hr | hr := receive_other (σ := σ) hm hf
      · rw [hr]
        exact .pure ()
      · rw [hr]
        exact .throw _

/-- Every call but those that power the chip up, deal with frames or send data. -/
theorem perform_confined (h : Confined k R) {c : Call} (hk : c.scope ≤ k) (hi : c ≠ .init)
    (hs : c ≠ .serviceInterrupt) (hd : ∀ payload role, c ≠ .sendData payload role) :
    Guarantees R (perform c : Act σ Unit) := by
  have hc := h.mono k.station_le
  cases c with
  | init => exact absurd rfl hi
  | serviceInterrupt => exact absurd rfl hs
  | sendData payload role => exact absurd rfl (hd payload role)
  | shutdown => exact issue_confined hc _ _ _
  | scan | scanSsid => exact startScan_confined hc _
  | connect ssid passphrase => exact connect_confined hc ssid passphrase
  | disconnect =>
    exact .bind (view_routine _) fun _ ↦ .ite (fun _ ↦ issue_confined hc _ _ _) fun _ ↦ .pure _
  | startAp settings => exact startAp_confined hc settings
  | stopAp | deauthClient => exact ensureReady_routine.bind fun _ ↦ issue_confined hc _ _ _
  | leased mac lease => exact leased_confined (h.mono hk) mac lease

end Session

end SdioWlan
