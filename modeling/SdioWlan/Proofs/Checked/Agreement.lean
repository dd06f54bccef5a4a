import SdioWlan.Proofs.Checked.Session
import SdioWlan.Proofs.Networks
import SdioWlan.Proofs.Reading.Intact
import SdioWlan.Proofs.Station.Sending

namespace SdioWlan.Checked

open Session (view update onLink stack report setConnection count)

variable {σ α : Type}

theorem address_agrees {port : Nat} (h : port < maxPort) :
    Agrees (address (UInt8.ofNat port) : Act σ UInt32)
      (view fun d ↦ SdioWlan.portAddress d.base port) := by
  intro s hs
  refine ⟨?_, hs⟩
  rw [address, Act.bind_apply]
  simp only [lift, view, compute, portAddress_eq hs h]
  rfl

theorem required_agrees {field : Except Fault (Option α)} {a : Option α} (h : field = .ok a) :
    Agrees (required field : Act σ α) (liftM (Session.required a)) := by
  refine .compute_bind h ?_
  cases a with
  | none => exact .throw _
  | some a => exact .pure a

theorem learn_agrees [Machine] (id : CommandId) (body : Bytes) :
    Agrees (learn id body : Act σ Unit) (Session.learn id body) := by
  cases id with
  | getHwSpec =>
    exact (required_agrees (u16At_eq body (by decide))).bind fun _ ↦ .lift fun _ ↦ rfl
  | macAddr =>
    exact (required_agrees (macAt_eq body (by decide))).bind fun _ ↦ .lift fun _ ↦ rfl
  | _ => exact .pure _

theorem base_of_intact {x : Session.Act σ α} (h : Guarantees Session.Intact x) (s : Session σ) :
    (x s).2.driver.base = s.driver.base := congrArg (·.base) (h s).kept

variable [Platform σ]

/-- Sending a command on a free channel is to write its frame. -/
theorem emit_frame {s : Session σ} (h : s.driver.channel.held = false) (c : Command) :
    Session.sendCommand c s =
      emit c (SdioWlan.portAddress s.driver.base controlPort) c.frame s := by
  have hw : Session.onChannel (CommandChannel.send s.driver.base c) s =
      let w := Link.writeBlock (SdioWlan.portAddress s.driver.base controlPort) .fifo c.frame s.link
      (w.1.mapError .transfer, ⟨s.driver.written c w.1, w.2⟩) := by
    simp only [Session.onChannel, CommandChannel.send, CommandChannel.sendDuring,
      CommandChannel.acquire_of_not_held h]
    rfl
  simp only [Session.sendCommand, Session.bind_apply, Session.view_apply, hw, emit,
    Session.update_apply, emit.observe]
  generalize Link.writeBlock (SdioWlan.portAddress s.driver.base controlPort) .fifo c.frame
    s.link = w
  obtain ⟨o, l⟩ := w
  cases o <;> rfl

theorem emit_base (c : Command) (place : UInt32) (frame : Bytes) (s : Session σ) :
    (emit c place frame s).2.driver.base = s.driver.base := by
  simp only [emit, Session.bind_apply, Session.update_apply, emit.observe]
  cases (Link.writeBlock place .fifo frame s.link).1 with
  | error e => rfl
  | ok u =>
    dsimp only
    split <;> rfl

variable [Machine]

theorem sendCommand_agrees (c : Command) :
    Agrees (sendCommand c : Act σ Unit) (Session.sendCommand c) := by
  refine .of_apply fun s hs ↦ ?_
  have hw := Command.writeTo_replicate c
  have hf : slice (c.frame ++ (List.replicate maxFrame 0).drop c.frameLength) 0 c.frameLength =
      .ok c.frame := slice_left (Command.length_frame c).symm
  cases hh : s.driver.channel.held with
  | true =>
    refine ⟨throw .busy, throw .busy, ?_, Session.sendCommand_of_held hh c, .throw _⟩
    simp only [sendCommand, Act.bind_apply, lift, view, hh, if_true]
  | false =>
    refine ⟨lift (emit c (SdioWlan.portAddress s.driver.base controlPort) c.frame), _, ?_,
      emit_frame hh c, .lift (emit_base c _ _)⟩
    have ha : address 0 s = .ok (.ok (SdioWlan.portAddress s.driver.base controlPort), s) :=
      (address_agrees (by decide : controlPort < maxPort) s hs).1
    simp only [sendCommand, Act.bind_apply, lift, view, hh, Bool.false_eq_true, if_false, attempt,
      serialize_eq, hw, ExceptT.run, ExceptT.mk, Except.map, ha, compute, hf]

theorem issue_agrees {payload : Bytes} (h : payload.length ≤ maxSlice) (id : CommandId)
    (action : CommandAction) :
    Agrees (issue id action payload : Act σ Unit) (Session.issue id action payload) := by
  refine .view_bind fun target ↦ .attempt_bind (encode_eq h _ _ _) fun c _ ↦ ?_
  cases gate id target.security with
  | sendNow => exact sendCommand_agrees c
  | stage => exact .lift fun _ ↦ rfl

theorem issue_nil_agrees (id : CommandId) (action : CommandAction) :
    Agrees (issue id action [] : Act σ Unit) (Session.issue id action []) :=
  issue_agrees (Nat.zero_le _) id action

theorem issue_block_agrees {b : Tlv.Block} (h : b.bytes.length ≤ 0x300000) (id : CommandId)
    (action : CommandAction) :
    Agrees (issue id action b.bytes : Act σ Unit) (Session.issue id action b.bytes) :=
  issue_agrees (Nat.le_trans h (Nat.le_trans (by decide) le_maxSlice)) id action

theorem pumpBootstrap_agrees : Agrees (pumpBootstrap : Act σ Unit) Session.pumpBootstrap := by
  refine .view_bind fun next ↦ .update_bind (fun _ ↦ rfl) fun _ ↦ ?_
  cases next.1 with
  | none => exact .pure _
  | some id =>
    exact (issue_nil_agrees id .get).tryCatch fun e ↦ .lift_bind (fun _ ↦ rfl) fun _ ↦ .throw e

theorem sendConnectScan_agrees : Agrees (sendConnectScan : Act σ Unit) Session.sendConnectScan :=
  .view_bind fun target ↦ .view_bind fun time ↦
    .attempt_map_bind (scanSsid_eq target.ssid time) fun _ hb ↦
      issue_block_agrees (Nat.le_trans (length_of_scanSsid hb) (by decide)) .scan .get

theorem connectFailed_agrees (why : ConnectFailure) :
    Agrees (connectFailed why : Act σ Unit) (Session.connectFailed why) := by
  refine .update_bind (fun _ ↦ rfl) fun _ ↦
    .view_compute_bind (fun d ↦ attemptFailed_eq d.connection) fun next ↦
      .lift_bind (fun _ ↦ rfl) fun _ ↦ ?_
  cases next.1 with
  | giveUp => exact .lift fun _ ↦ rfl
  | rescan => exact sendConnectScan_agrees.tryCatch fun e ↦ .lift fun _ ↦ rfl

theorem issueAssociation_agrees {b : Bss} (h : b.vendor.length ≤ Bss.maxVendor)
    {block : Tlv.Block} (hb : block.bytes.length ≤ 0x100030) :
    Agrees (issueAssociation block.bytes b : Act σ Unit) (Session.issueAssociation block b) := by
  have ha := addSecurity_eq hb h b.security b.rsn
  have hl {c : Tlv.Block} (hc : Params.addSecurity block b.security b.vendor b.rsn = (.ok (), c)) :
      c.bytes.length ≤ 0x300000 := length_of_addSecurity hb h hc
  unfold issueAssociation Session.issueAssociation
  generalize Params.addSecurity block b.security b.vendor b.rsn = secured at ha hl ⊢
  obtain ⟨r, c⟩ := secured
  refine .attempt_map_bind (p := fun _ ↦ c.bytes) ?_ fun _ hr ↦
    issue_block_agrees (hl (Prod.ext hr rfl)) _ _
  rw [ha]
  cases r <;> rfl

theorem associate_agrees {b : Bss} (h : b.vendor.length ≤ Bss.maxVendor) :
    Agrees (associate b : Act σ Unit) (Session.associate b) := by
  refine .view_bind fun c ↦ .lift_bind (fun _ ↦ rfl) fun _ ↦ .view_bind fun target ↦
    .attempt_map_bind (association_eq target.ssid b.channel b.security) fun block hb ↦ ?_
  have hl := length_of_few (length_associationElements _ _ _) hb
  refine .ite (fun _ ↦ ?_) fun _ ↦ issueAssociation_agrees h hl
  refine .attempt_map_bind (masterKey_eq _ _ _) fun key hk ↦ ?_
  have hk := length_of_few (by simp) hk
  refine (issue_block_agrees (Nat.le_trans hk (by decide)) _ _).bind fun _ ↦ ?_
  exact issueAssociation_agrees h hl

theorem scanFailed_agrees (verdict : Connection.ScanVerdict) (e : DriverError) :
    Agrees (scanFailed verdict e : Act σ Unit) (Session.scanFailed verdict e) := by
  cases verdict with
  | connect => exact connectFailed_agrees _
  | plain => exact .lift fun _ ↦ rfl
  | stale => exact .pure _

theorem pickNetwork_agrees {networks : List Bss}
    (h : ∀ b ∈ networks, b.vendor.length ≤ Bss.maxVendor) :
    Agrees (pickNetwork networks : Act σ Unit) (Session.pickNetwork networks) := by
  refine .view_bind fun ssid ↦ ?_
  cases hf : networks.find? (·.ssid == ssid) with
  | none => exact connectFailed_agrees _
  | some b =>
    exact (associate_agrees (h b (List.mem_of_find?_eq_some hf))).tryCatch fun e ↦
      connectFailed_agrees _

theorem onScan_agrees {body : Bytes} (h : body.length ≤ maxSlice) :
    Agrees (onScan body : Act σ Unit) (Session.onScan body) := by
  refine .lift_bind (fun _ ↦ rfl) fun verdict ↦ .compute_bind (scanReport_eq body) ?_
  cases hp : ScanReport.parse body with
  | error e => exact (scanFailed_agrees verdict e).bind fun _ ↦ .throw e
  | ok r =>
    have hn : networks r.count r.sets = .ok (ScanReport.walk r.count.toNat r.sets) :=
      networks_eq (Nat.le_trans (ScanReport.length_sets_of_parse hp) h) r.count
    cases verdict with
    | stale => exact .pure _
    | plain =>
      refine .compute_bind hn (.lift (base_of_intact ?_))
      exact Session.reportNetworks_confined Session.intact_routine.confined _
    | connect =>
      exact .compute_bind hn (pickNetwork_agrees fun b hb ↦ ScanReport.length_vendor_of_mem_walk hb)

theorem onBoot_agrees (id : CommandId) (body : Bytes) :
    Agrees (onBoot id body : Act σ Unit) (Session.onBoot id body) := by
  refine (learn_agrees id body).bind fun _ ↦ .view_bind fun advanced ↦
    .update_bind (fun _ ↦ rfl) fun _ ↦ ?_
  cases advanced.1 with
  | next _ => exact pumpBootstrap_agrees
  | done => exact .lift fun _ ↦ rfl
  | notMine => exact .pure _

theorem onAssociate_agrees (body : Bytes) :
    Agrees (onAssociate body : Act σ Unit) (Session.onAssociate body) := by
  refine (required_agrees (u16At_eq body (by decide))).bind fun capability ↦ ?_
  cases AssocRefusal.ofCapability? capability with
  | none => exact .pure _
  | some r =>
    refine .view_bind fun status ↦ ?_
    exact .ite (fun _ ↦ connectFailed_agrees _) fun _ ↦ .pure _

theorem onKey_agrees : Agrees (onKey : Act σ Unit) Session.onKey := by
  refine .view_bind fun staged ↦ .update_bind (fun _ ↦ rfl) fun _ ↦ ?_
  cases staged with
  | none => exact .pure _
  | some c => exact (sendCommand_agrees c).tryCatch fun e ↦ connectFailed_agrees _

theorem onConfigured_agrees : Agrees (onConfigured : Act σ Unit) Session.onConfigured :=
  (issue_nil_agrees .bssStart .get).tryCatch fun _ ↦ .lift fun _ ↦ rfl

theorem commandFailed_agrees (id : CommandId) (e : DriverError) :
    Agrees (commandFailed id e : Act σ Unit) (Session.commandFailed id e) := by
  cases id with
  | funcInit | macControl | getHwSpec | macAddr =>
    refine .view_bind fun ready ↦ ?_
    exact .ite (fun _ ↦ .pure _) fun _ ↦ .lift fun _ ↦ rfl
  | scan => exact .lift_bind (fun _ ↦ rfl) fun verdict ↦ scanFailed_agrees verdict e
  | supplicantPmk | associate =>
    refine .view_bind fun status ↦ ?_
    exact .ite (fun _ ↦ connectFailed_agrees _) fun _ ↦ .pure _
  | sysConfigure | bssStart => exact .lift fun _ ↦ rfl
  | _ => exact .pure _

theorem commandDone_agrees {body : Bytes} (h : body.length ≤ maxSlice) (id : CommandId) :
    Agrees (commandDone id body : Act σ Unit) (Session.commandDone id body) := by
  cases id with
  | funcInit | macControl | getHwSpec | macAddr => exact onBoot_agrees _ body
  | funcShutdown => exact .lift fun _ ↦ rfl
  | scan => exact onScan_agrees h
  | associate => exact onAssociate_agrees body
  | supplicantPmk => exact onKey_agrees
  | sysConfigure => exact onConfigured_agrees
  | bssStop => exact .lift fun _ ↦ rfl
  | _ => exact .pure _

theorem onResponse_agrees {frame : Bytes} (h : frame.length ≤ maxSlice) :
    Agrees (onResponse frame : Act σ Unit) (Session.onResponse frame) := by
  have hb : (range? frame CommandHeader.length frame.length).getD [] =
      frame.drop CommandHeader.length := by
    by_cases hf : CommandHeader.length ≤ frame.length
    · rw [range?, if_pos ⟨hf, Nat.le_refl _⟩, Option.getD_some, ← List.length_drop,
        List.take_length]
    · rw [range?, if_neg fun hc ↦ hf hc.1, List.drop_of_length_le (Nat.le_of_not_le hf)]
      rfl
  have hl : (frame.drop CommandHeader.length).length ≤ maxSlice := by
    rw [List.length_drop]
    omega
  refine (required_agrees (header_eq frame)).bind fun r ↦ .update_bind (fun _ ↦ rfl) fun _ ↦ ?_
  rw [hb]
  exact .ite (fun _ ↦ (commandFailed_agrees r.id _).bind fun _ ↦ .throw _) fun _ ↦
    commandDone_agrees hl r.id

theorem onClientLeft_agrees (body : Bytes) :
    Agrees (onClientLeft body : Act σ Unit) (Session.onClientLeft body) := by
  refine (required_agrees (macAt_eq body (by decide))).bind fun mac ↦
    .view_compute_bind (fun d ↦ evict?_eq d.clients mac) fun left ↦ ?_
  cases left with
  | none => exact .pure _
  | some left => exact .lift fun _ ↦ rfl

theorem onClientJoined_agrees (body : Bytes) :
    Agrees (onClientJoined body : Act σ Unit) (Session.onClientJoined body) := by
  refine (required_agrees (macAt_eq body (by decide))).bind fun mac ↦
    .view_compute_bind (fun d ↦ admit?_eq d.clients mac) fun joined ↦ ?_
  cases joined with
  | none =>
    exact issue_agrees (Nat.le_trans (by rw [Mac.length_toBytes]; decide) le_maxSlice) .staDeauth
      .get
  | some joined => exact .lift fun _ ↦ rfl

theorem onEventOf_agrees {body : Bytes} (h : body.length ≤ maxSlice) (id : EventId) :
    Agrees (onEventOf id body : Act σ Unit) (Session.onEventOf id body) := by
  cases id with
  | deauthenticated | portRelease | uapBssStart => exact .lift fun _ ↦ rfl
  | uapStaDeauth => exact onClientLeft_agrees body
  | uapStaAssoc => exact onClientJoined_agrees body
  | addba => exact issue_agrees h .addbaRsp .get
  | _ => exact .pure _

theorem onEvent_agrees {frame : Bytes} (h : frame.length ≤ maxSlice) :
    Agrees (onEvent frame : Act σ Unit) (Session.onEvent frame) := by
  unfold onEvent Session.onEvent
  by_cases hf : frame.length < eventHeaderSize
  · rw [if_pos hf]
    split
    · simp only [List.length_cons, eventHeaderSize] at hf
      omega
    · exact .throw _
  · rw [if_neg hf]
    match frame, Nat.not_lt.mp hf with
    | l₀ :: l₁ :: k₀ :: k₁ :: lo :: hi :: a :: b :: body, hl =>
      have hw : word (l₀ :: l₁ :: k₀ :: k₁ :: lo :: hi :: a :: b :: body) 4 = .ok (ofLe16 lo hi) :=
        word_of_lt (by simp) (by decide)
      refine .compute_bind hw (.compute_bind (sliceFrom_of_le hl) (onEventOf_agrees ?_ _))
      simp only [List.length_cons] at h
      rw [eventHeaderSize, List.drop_succ_cons]
      simp only [List.drop_succ_cons, List.drop_zero]
      omega

end SdioWlan.Checked
