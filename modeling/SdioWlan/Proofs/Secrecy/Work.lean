import SdioWlan.Proofs.AssociationFrame
import SdioWlan.Proofs.Secrecy.Alike

namespace SdioWlan.Session

variable {σ α β : Type} {R : σ → σ → Prop}

abbrev Discreet (R : σ → σ → Prop) (x : Act σ α) : Prop := Parallel (Alike R) x x

section Driver

theorem view_bind {f g : Driver → β} {k l : β → Act σ α}
    (h : ∀ {d e : Driver}, d.Alike e → Parallel (Alike R) (k (f d)) (l (g e))) :
    Parallel (Alike R) (view f >>= k) (view g >>= l) := by
  intro s t hs
  rw [bind_apply, bind_apply]
  exact h hs.driver s t hs

theorem view_discreet {f : Driver → α} (hf : ∀ d, f d.redacted = f d) : Discreet R (view f) :=
  fun _ _ hs ↦ ⟨congrArg Except.ok (hs.driver.eq_of hf), hs⟩

theorem update_discreet {g : Driver → Driver} (hg : ∀ d, (g d.redacted).redacted = (g d).redacted)
    (ht : ∀ d : Driver, d.connection.target.Short → (g d).connection.target.Short) :
    Discreet R (update g) :=
  fun _ _ hs ↦ ⟨rfl, hs.driver.map hg ht, hs.link⟩

theorem setConnection_parallel {c c' : Connection} (h : c.Alike c') :
    Parallel (Alike R) (setConnection c) (setConnection c') :=
  fun _ _ hs ↦ ⟨rfl, hs.driver.setConnection h, hs.link⟩

theorem clearStaged_discreet : Discreet R (update (·.clearStaged)) :=
  update_discreet (fun _ ↦ rfl) fun _ h ↦ h

theorem count_discreet (f : NetDevice → NetDevice) (role : Role) : Discreet R (count f role) :=
  update_discreet (fun _ ↦ by cases role <;> rfl) fun _ h ↦ by cases role <;> exact h

end Driver

section Link

theorem record_discreet (a : Action) : Discreet R (record a) :=
  fun _ _ hs ↦ ⟨rfl, hs.driver, hs.link.device, .cons (.same a) hs.link.past⟩

theorem stack_discreet (c : StackCall) : Discreet R (stack c) := record_discreet _

theorem report_discreet (r : Report) : Discreet R (report r) := record_discreet _

theorem onLink_discreet {w : Link.Work σ α} (h : Parallel (Link.Alike R) w w) :
    Discreet R (onLink w) := by
  intro s t hs
  obtain ⟨ho, hl⟩ := h s.link t.link hs.link
  exact ⟨ho, hs.driver, hl⟩

theorem onPorts_discreet {w : ExceptT DriverError (StateM (PortAllocator × Link σ)) α}
    (h : Parallel (fun a b ↦ a.1 = b.1 ∧ a.2.Alike R b.2) w w) : Discreet R (onPorts w) := by
  intro s t hs
  have hp : s.driver.ports = t.driver.ports := hs.driver.eq_of fun _ ↦ rfl
  obtain ⟨ho, ha, hl⟩ := h (s.driver.ports, s.link) (t.driver.ports, t.link) ⟨hp, hs.link⟩
  refine ⟨ho, ?_, hl⟩
  simp only [onPorts, ha]
  exact hs.driver.map (g := fun d ↦ { d with ports := _ }) (fun _ ↦ rfl) fun _ h ↦ h

theorem failBoot_discreet (e : DriverError) : Discreet R (failBoot e) :=
  .bind (update_discreet (fun _ ↦ rfl) fun _ h ↦ h) fun _ ↦ report_discreet _

theorem reportNetworks_discreet (networks : List Bss) : Discreet R (reportNetworks networks) := by
  induction networks with
  | nil => exact report_discreet _
  | cons b bs ih => exact (report_discreet _).bind fun _ ↦ ih

end Link

section Local

theorem takeScan_discreet : Discreet R (takeScan : Act σ Connection.ScanVerdict) := by
  refine view_bind fun hd ↦ ?_
  obtain ⟨hv, hc⟩ := hd.connection.scanAnswered
  rw [hv]
  exact (setConnection_parallel hc).bind fun _ ↦ .pure _

theorem learn_discreet (id : CommandId) (body : Bytes) :
    Discreet R (learn id body : Act σ Unit) := by
  unfold learn
  split
  · exact .lift_bind fun _ _ ↦ update_discreet (fun _ ↦ rfl) fun _ h ↦ h
  · exact .lift_bind fun _ _ ↦ update_discreet (fun _ ↦ rfl) fun _ h ↦ h
  · exact .pure _

theorem onShutdown_discreet : Discreet R (onShutdown : Act σ Unit) :=
  .bind (update_discreet (fun _ ↦ rfl) fun _ _ ↦ .default) fun _ ↦ report_discreet _

theorem onStopped_discreet : Discreet R (onStopped : Act σ Unit) :=
  .bind (update_discreet (fun _ ↦ rfl) fun _ h ↦ h) fun _ ↦
    (stack_discreet _).bind fun _ ↦ report_discreet _

theorem onDeauthenticated_discreet : Discreet R (onDeauthenticated : Act σ Unit) :=
  .bind (update_discreet (fun _ ↦ rfl) fun _ h ↦ h) fun _ ↦
    (stack_discreet _).bind fun _ ↦ report_discreet _

theorem onPortRelease_discreet : Discreet R (onPortRelease : Act σ Unit) :=
  .bind (update_discreet (fun _ ↦ rfl) fun _ h ↦ h) fun _ ↦
    (stack_discreet _).bind fun _ ↦ report_discreet _

theorem onApStarted_discreet : Discreet R (onApStarted : Act σ Unit) :=
  .bind (update_discreet (fun _ ↦ rfl) fun _ h ↦ h) fun _ ↦
    (stack_discreet _).bind fun _ ↦ report_discreet _

theorem ensureReady_discreet : Discreet R (ensureReady : Act σ Unit) :=
  (view_discreet fun _ ↦ rfl).bind fun _ ↦ .ite (fun _ ↦ .pure _) fun _ ↦ .throw _

theorem leased_discreet (mac : Mac) (lease : Lease) :
    Discreet R (leased mac lease : Act σ Unit) :=
  (view_discreet fun _ ↦ rfl).bind fun _ ↦ .ite (fun _ ↦ report_discreet _) fun _ ↦ .pure _

end Local

end SdioWlan.Session

namespace SdioWlan

theorem Driver.redacted_sent (d : Driver) {c c' : Command} (h : c.id = c'.id)
    (o : Except Errno Unit) : (d.redacted.sent c o).redacted = (d.sent c' o).redacted := by
  cases o with
  | error e =>
    rw [sent_of_not (.inl (by simp)), sent_of_not (.inl (by simp))]
    rfl
  | ok u =>
    by_cases hc : c'.id = .scan
    · rw [sent_scan (h.trans hc), sent_scan hc, written, written, h]
      rfl
    · rw [sent_of_not (.inr (h ▸ hc)), sent_of_not (.inr hc), written, written, h]
      rfl

theorem Driver.Alike.sent {d e : Driver} (hd : d.Alike e) {c c' : Command} (h : c.id = c'.id)
    (o : Except Errno Unit) : (d.sent c o).Alike (e.sent c' o) := by
  have ht {d : Driver} {c : Command} (h : d.connection.target.Short) :
      (d.sent c o).connection.target.Short := by
    unfold Driver.sent
    split <;> exact h
  refine ⟨?_, ht hd.short, ht hd.short'⟩
  rw [← Driver.redacted_sent d rfl, hd.redacted, Driver.redacted_sent e h]

namespace Session

variable {σ α : Type} [Platform σ] {R : σ → σ → Prop}

/-- Two commands of a kind, written where the platform makes no difference between them. -/
theorem sendCommand_parallel {c c' : Command} (hi : c.id = c'.id)
    (hw : ∀ {d e : σ}, R d e → ∀ addr,
      Same R (Platform.writeBlock addr .fifo c.frame d) (Platform.writeBlock addr .fifo c'.frame e))
    (ha : ∀ base o, (c.written base o).Alike (c'.written base o)) :
    Parallel (Alike R) (sendCommand c) (sendCommand c') := by
  intro s t hs
  have hh := hs.driver.eq_of (f := (·.channel.held)) fun _ ↦ rfl
  have hb := hs.driver.eq_of (f := (·.base)) fun _ ↦ rfl
  cases ht : t.driver.channel.held with
  | true =>
    rw [sendCommand_of_held (hh.trans ht), sendCommand_of_held ht]
    exact ⟨rfl, hs⟩
  | false =>
    rw [sendCommand_eq (hh.trans ht), sendCommand_eq ht, hb]
    obtain ⟨ho, hr⟩ := hw hs.link.device (portAddress t.driver.base controlPort)
    dsimp only
    rw [ho]
    exact ⟨rfl, hs.driver.sent hi _, hr, .cons (ha _ _) hs.link.past⟩

section Commands

variable (hp : Platform.Oblivious R)
include hp

theorem sendCommand_discreet (c : Command) : Discreet R (sendCommand c) :=
  sendCommand_parallel rfl (fun h addr ↦ hp.writeBlock h addr _ _) fun _ _ ↦ .same _

theorem sendKey_parallel {c c' : Command} (hc : c.IsKey) (hc' : c'.IsKey) :
    Parallel (Alike R) (sendCommand c) (sendCommand c') :=
  sendCommand_parallel (hc.trans hc'.symm) (fun h addr ↦ hp.writeKey h addr _ hc hc') fun base o ↦
    .key hc hc' base o

theorem issue_discreet (id : CommandId) (action : CommandAction) (payload : Bytes) :
    Discreet R (issue id action payload) := by
  refine view_bind fun hd ↦ ?_
  obtain ⟨-, hs, hb, hc⟩ := hd.connection.target
  rw [hs, hb, hc]
  refine .lift_bind fun c _ ↦ ?_
  split
  · exact sendCommand_discreet hp c
  · exact update_discreet (fun _ ↦ rfl) fun _ h ↦ h

theorem pumpBootstrap_discreet : Discreet R (pumpBootstrap : Act σ Unit) := by
  refine (view_discreet fun _ ↦ rfl).bind fun next ↦ ?_
  refine .bind (update_discreet (fun _ ↦ rfl) fun _ h ↦ h) fun _ ↦ ?_
  rcases next with ⟨_ | id, boot⟩
  · exact .pure _
  · exact (issue_discreet hp id .get []).tryCatch fun e ↦
      (failBoot_discreet e).bind fun _ ↦ .throw e

end Commands

section Connect

variable (hp : Platform.Oblivious R)
include hp

theorem sendConnectScan_discreet : Discreet R (sendConnectScan : Act σ Unit) := by
  refine view_bind fun hd ↦ (view_discreet fun _ ↦ rfl).bind fun time ↦ ?_
  rw [hd.connection.target.1]
  exact .lift_bind fun block _ ↦ issue_discreet hp _ _ _

theorem connectFailed_discreet (why : ConnectFailure) :
    Discreet R (connectFailed why : Act σ Unit) := by
  refine clearStaged_discreet.bind fun _ ↦ view_bind fun hd ↦ ?_
  obtain ⟨hn, hc⟩ := hd.connection.attemptFailed
  rw [hn]
  refine (setConnection_parallel hc).bind fun _ ↦ ?_
  split
  · exact report_discreet _
  · refine (sendConnectScan_discreet hp).tryCatch fun e ↦ ?_
    exact (view_bind fun hd ↦ setConnection_parallel hd.connection.abort).bind fun _ ↦
      report_discreet _

omit [Platform σ] hp in
theorem Alike.toward {s t : Session σ} (h : s.Alike R t) (b : Bss) :
    (s.toward b).Alike R (t.toward b) :=
  ⟨h.driver.setConnection (h.driver.connection.setPeer _ _ _), h.link⟩

theorem giveKey_parallel (b : Bss) {s t : Session σ} (hs : s.Alike R t) :
    (giveKey b (s.toward b)).1 = (giveKey b (t.toward b)).1 ∧
      (giveKey b (s.toward b)).2.Alike R (giveKey b (t.toward b)).2 := by
  obtain ⟨hl, hl'⟩ := hs.driver.short
  obtain ⟨hm, hm'⟩ := hs.driver.short'
  obtain ⟨k, hk, -⟩ := keyCommand_of_named b hl hl'
  obtain ⟨k', hk', -⟩ := keyCommand_of_named b hm hm'
  rw [giveKey_apply hk, giveKey_apply hk']
  exact sendKey_parallel hp (Station.keyCommand_id hk) (Station.keyCommand_id hk') _ _ (hs.toward b)

theorem issueAssociation_discreet (block : Tlv.Block) (b : Bss) :
    Discreet R (issueAssociation block b : Act σ Unit) :=
  .lift_bind fun _ _ ↦ issue_discreet hp _ _ _

theorem associate_discreet (b : Bss) : Discreet R (associate b : Act σ Unit) := by
  intro s t hs
  have hn : s.driver.connection.target.ssid = t.driver.connection.target.ssid :=
    hs.driver.connection.target.1
  rw [associate_apply, associate_apply, hn, bind_apply, bind_apply, liftM_apply, liftM_apply]
  cases Params.association t.driver.connection.target.ssid b.channel b.security with
  | error e => exact ⟨rfl, hs.toward b⟩
  | ok block =>
    have hi := issueAssociation_discreet hp block b
    cases b.security.needsKey with
    | false => exact hi _ _ (hs.toward b)
    | true =>
      obtain ⟨ho, hu⟩ := giveKey_parallel hp b hs
      simp only [if_true, bind_apply]
      rcases hg : giveKey b (s.toward b) with ⟨o, u⟩
      rcases hg' : giveKey b (t.toward b) with ⟨o', u'⟩
      rw [hg, hg'] at ho hu
      obtain rfl : o = o' := ho
      cases o with
      | error e => exact ⟨rfl, hu⟩
      | ok _ => exact hi u u' hu

end Connect

section Response

variable (hp : Platform.Oblivious R)
include hp

theorem scanFailed_discreet (verdict : Connection.ScanVerdict) (e : DriverError) :
    Discreet R (scanFailed verdict e : Act σ Unit) := by
  cases verdict with
  | connect => exact connectFailed_discreet hp _
  | plain => exact report_discreet _
  | stale => exact .pure _

theorem pickNetwork_discreet (networks : List Bss) :
    Discreet R (pickNetwork networks : Act σ Unit) := by
  refine view_bind fun hd ↦ ?_
  rw [hd.connection.target.1]
  split
  · exact connectFailed_discreet hp _
  · exact (associate_discreet hp _).tryCatch fun e ↦ connectFailed_discreet hp _

theorem onScan_discreet (body : Bytes) : Discreet R (onScan body : Act σ Unit) := by
  refine takeScan_discreet.bind fun verdict ↦ ?_
  split
  · exact (scanFailed_discreet hp _ _).bind fun _ ↦ .throw _
  · cases verdict with
    | stale => exact .pure _
    | plain => exact reportNetworks_discreet _
    | connect => exact pickNetwork_discreet hp _

theorem onBoot_discreet (id : CommandId) (body : Bytes) :
    Discreet R (onBoot id body : Act σ Unit) := by
  refine (learn_discreet id body).bind fun _ ↦ (view_discreet fun _ ↦ rfl).bind fun advanced ↦ ?_
  refine .bind (update_discreet (fun _ ↦ rfl) fun _ h ↦ h) fun _ ↦ ?_
  rcases advanced with ⟨_ | _ | _, boot⟩
  · exact pumpBootstrap_discreet hp
  · exact (view_discreet fun _ ↦ rfl).bind fun mac ↦ (stack_discreet _).bind fun _ ↦
      report_discreet _
  · exact .pure _

theorem onAssociate_discreet (body : Bytes) : Discreet R (onAssociate body : Act σ Unit) := by
  refine .lift_bind fun capability _ ↦ ?_
  split
  · exact .pure _
  · refine (view_discreet fun _ ↦ rfl).bind fun status ↦ ?_
    exact .ite (fun _ ↦ connectFailed_discreet hp _) fun _ ↦ .pure _

theorem onKey_discreet : Discreet R (onKey : Act σ Unit) := by
  refine (view_discreet fun _ ↦ rfl).bind fun staged ↦ clearStaged_discreet.bind fun _ ↦ ?_
  cases staged with
  | none => exact .pure _
  | some c => exact (sendCommand_discreet hp c).tryCatch fun e ↦ connectFailed_discreet hp _

theorem onConfigured_discreet : Discreet R (onConfigured : Act σ Unit) :=
  (issue_discreet hp _ _ _).tryCatch fun _ ↦ report_discreet _

theorem commandFailed_discreet (id : CommandId) (e : DriverError) :
    Discreet R (commandFailed id e : Act σ Unit) := by
  cases id with
  | funcInit | macControl | getHwSpec | macAddr =>
    exact (view_discreet fun _ ↦ rfl).bind fun ready ↦
      .ite (fun _ ↦ .pure _) fun _ ↦ failBoot_discreet e
  | scan => exact takeScan_discreet.bind fun verdict ↦ scanFailed_discreet hp verdict e
  | supplicantPmk | associate =>
    exact (view_discreet fun _ ↦ rfl).bind fun status ↦
      .ite (fun _ ↦ connectFailed_discreet hp _) fun _ ↦ .pure _
  | sysConfigure | bssStart => exact report_discreet _
  | _ => exact .pure _

theorem commandDone_discreet (id : CommandId) (body : Bytes) :
    Discreet R (commandDone id body : Act σ Unit) := by
  cases id with
  | funcInit | macControl | getHwSpec | macAddr => exact onBoot_discreet hp _ body
  | funcShutdown => exact onShutdown_discreet
  | scan => exact onScan_discreet hp body
  | associate => exact onAssociate_discreet hp body
  | supplicantPmk => exact onKey_discreet hp
  | sysConfigure => exact onConfigured_discreet hp
  | bssStop => exact onStopped_discreet
  | _ => exact .pure _

theorem onResponse_discreet (frame : Bytes) : Discreet R (onResponse frame : Act σ Unit) := by
  refine .lift_bind fun h _ ↦ .bind (update_discreet (fun _ ↦ rfl) fun _ h ↦ h) fun _ ↦ ?_
  exact .ite (fun _ ↦ (commandFailed_discreet hp _ _).bind fun _ ↦ .throw _) fun _ ↦
    commandDone_discreet hp _ _

end Response

section Event

variable (hp : Platform.Oblivious R)
include hp

theorem eraseLease_discreet (mac : Mac) : Discreet R (eraseLease mac) := by
  intro s t hs
  have he := hp.eraseLease hs.link.device mac
  exact ⟨congrArg Except.ok he.1, hs.driver, hs.link.cons he fun o ↦ .stack (.eraseLease mac o)⟩

theorem onClientLeft_discreet (body : Bytes) : Discreet R (onClientLeft body : Act σ Unit) := by
  refine .lift_bind fun mac _ ↦ (view_discreet fun _ ↦ rfl).bind fun evicted ↦ ?_
  cases evicted with
  | none => exact .pure _
  | some left =>
    refine .bind (update_discreet (fun _ ↦ rfl) fun _ h ↦ h) fun _ ↦ ?_
    exact (eraseLease_discreet hp mac).bind fun _ ↦ report_discreet _

theorem onClientJoined_discreet (body : Bytes) : Discreet R (onClientJoined body : Act σ Unit) := by
  refine .lift_bind fun mac _ ↦ (view_discreet fun _ ↦ rfl).bind fun admitted ↦ ?_
  cases admitted with
  | none => exact issue_discreet hp _ _ _
  | some joined => exact update_discreet (fun _ ↦ rfl) fun _ h ↦ h

theorem onEventOf_discreet (id : EventId) (body : Bytes) :
    Discreet R (onEventOf id body : Act σ Unit) := by
  cases id with
  | deauthenticated => exact onDeauthenticated_discreet
  | portRelease => exact onPortRelease_discreet
  | uapStaDeauth => exact onClientLeft_discreet hp body
  | uapStaAssoc => exact onClientJoined_discreet hp body
  | uapBssStart => exact onApStarted_discreet
  | addba => exact issue_discreet hp _ _ _
  | _ => exact .pure _

theorem onEvent_discreet (frame : Bytes) : Discreet R (onEvent frame : Act σ Unit) := by
  unfold onEvent
  split
  · exact onEventOf_discreet hp _ _
  · exact .throw _

end Event

section Data

variable (hp : Platform.Oblivious R)
include hp

theorem transmit_discreet (payload : Bytes) (role : Role) :
    Discreet R (transmit payload role : Act σ Unit) := by
  refine .lift_bind fun packet _ ↦ (view_discreet fun _ ↦ rfl).bind fun budget ↦ ?_
  refine (onPorts_discreet (PortAllocator.acquire_parallel hp budget)).bind fun port ↦ ?_
  refine (view_discreet fun _ ↦ rfl).bind fun address ↦ onLink_discreet ?_
  exact (Link.writeBlock_parallel hp _ _ _).adapt

theorem sendData_discreet (payload : Bytes) (role : Role) :
    Discreet R (sendData payload role : Act σ Unit) := by
  refine ensureReady_discreet.bind fun _ ↦ .bind ?_ fun _ ↦ count_discreet _ _
  exact (transmit_discreet hp payload role).tryCatch fun _ ↦
    (count_discreet _ _).bind fun _ ↦ .throw _

theorem forward_discreet (payload : Bytes) : Discreet R (forward payload : Act σ Unit) := by
  refine .tryCatch ?_ fun _ ↦ count_discreet _ _
  exact (sendData_discreet hp _ _).bind fun _ ↦ count_discreet _ _

theorem onData_discreet (frame : Bytes) : Discreet R (onData frame : Act σ Unit) := by
  unfold onData
  split
  · exact count_discreet _ _
  · rename_i r _
    have hd (delivers : Bool) : Discreet R (if delivers then do
        count (NetDevice.countRx · r.payload.length) r.role
        stack (.deliver r.payload r.role)
      else pure () : Act σ Unit) :=
      .ite (fun _ ↦ (count_discreet _ _).bind fun _ ↦ stack_discreet _) fun _ ↦ .pure _
    refine (view_discreet fun _ ↦ rfl).bind fun route ↦ ?_
    exact .ite (fun _ ↦ (forward_discreet hp _).bind fun _ ↦ hd _) fun _ ↦ hd _

end Data

section Receive

variable (hp : Platform.Oblivious R)
include hp

theorem receive_discreet (frame : Bytes) : Discreet R (receive frame : Act σ Unit) := by
  unfold receive
  split
  · split
    · exact onData_discreet hp _
    · exact onResponse_discreet hp _
    · exact onEvent_discreet hp _
    · exact .pure _
  · exact .throw _

theorem readFrame_discreet (snapshot : Snapshot) (port : Nat) :
    Discreet R (readFrame snapshot port : Act σ Bytes) := by
  refine .ite (fun _ ↦ .throw _) fun _ ↦ (view_discreet fun _ ↦ rfl).bind fun address ↦ ?_
  exact onLink_discreet (Link.readBlock_parallel hp _ _ _).adapt

theorem drain_discreet (snapshot : Snapshot) (n : Nat) :
    Discreet R (drain snapshot n : Act σ Unit) := by
  induction n with
  | zero => exact .pure _
  | succ n ih =>
    refine (view_discreet fun _ ↦ rfl).bind fun next ↦ ?_
    cases next with
    | none => exact .pure _
    | some next =>
      refine .bind (update_discreet (fun _ ↦ rfl) fun _ h ↦ h) fun _ ↦ ?_
      exact (readFrame_discreet hp snapshot next.1).bind fun frame ↦
        (receive_discreet hp frame).bind fun _ ↦ ih

theorem serviceInterrupt_discreet : Discreet R (serviceInterrupt : Act σ Unit) := by
  refine (onLink_discreet (Snapshot.read_parallel hp).adapt).bind fun snapshot ↦ ?_
  refine (onLink_discreet (Link.writeByte_parallel hp _ _).adapt).bind fun _ ↦ ?_
  exact .bind (update_discreet (fun _ ↦ rfl) fun _ h ↦ h) fun _ ↦ drain_discreet hp snapshot _

end Receive

section Call

variable (hp : Platform.Oblivious R)
include hp

theorem init_discreet : Discreet R (init : Act σ Unit) := by
  have hu : Discreet R (powerUp : Act σ UInt32) := by
    refine (view_discreet fun _ ↦ rfl).bind fun image ↦ .lift_bind fun bytes _ ↦ ?_
    exact (view_discreet fun _ ↦ rfl).bind fun budgets ↦
      onLink_discreet (Firmware.powerOn_parallel hp bytes budgets)
  refine .bind (hu.tryCatch fun e ↦ (failBoot_discreet e).bind fun _ ↦ .throw e) fun base ↦ ?_
  exact .bind (update_discreet (fun _ ↦ rfl) fun _ h ↦ h) fun _ ↦ pumpBootstrap_discreet hp

theorem startScan_discreet (params : Except DriverError Tlv.Block) :
    Discreet R (startScan params : Act σ Unit) := by
  refine ensureReady_discreet.bind fun _ ↦ (view_discreet fun _ ↦ rfl).bind fun status ↦ ?_
  exact .ite (fun _ ↦ .throw _) fun _ ↦ .lift_bind fun block _ ↦ issue_discreet hp _ _ _

/-- Requests for the same network with two passphrases. -/
theorem connect_parallel (ssid : Bytes) {p p' : Bytes}
    (h : p.length ≤ maxPassphrase ↔ p'.length ≤ maxPassphrase) :
    Parallel (Alike R) (connect ssid p : Act σ Unit) (connect ssid p') := by
  refine ensureReady_discreet.bind fun _ ↦ view_bind fun hd ↦ ?_
  rcases hd.connection.request ssid h with ⟨e, he, he'⟩ | ⟨r, r', hr, hr', ha⟩
  · exact .lift_bind_error he he'
  · refine .lift_bind_ok hr hr' ((setConnection_parallel ha).bind fun _ ↦ ?_)
    refine clearStaged_discreet.bind fun _ ↦ (sendConnectScan_discreet hp).tryCatch fun e ↦ ?_
    exact (view_bind fun hd ↦ setConnection_parallel hd.connection.abort).bind fun _ ↦ .throw e

theorem disconnect_discreet : Discreet R (disconnect : Act σ Unit) :=
  (view_discreet fun _ ↦ rfl).bind fun _ ↦
    .ite (fun _ ↦ issue_discreet hp _ _ _) fun _ ↦ .pure _

theorem startAp_discreet (settings : ApSettings) : Discreet R (startAp settings : Act σ Unit) := by
  refine ensureReady_discreet.bind fun _ ↦ .lift_bind fun block _ ↦ ?_
  exact .ite (fun _ ↦ issue_discreet hp _ _ _) fun _ ↦ issue_discreet hp _ _ _

end Call

end Session

end SdioWlan
