import SdioWlan.Proofs.Checked.Agreement
import SdioWlan.Proofs.ScriptedChip

namespace SdioWlan

theorem DataFrame.length_payload_of_parse {frame : Bytes} {r : Received}
    (h : parse frame = .ok r) : r.payload.length < 0x10000 := by
  unfold parse at h
  split at h
  · cases h
  · next hf =>
    cases h
    simp only [parse.fields?, Option.bind_eq_bind, Option.bind_eq_some_iff] at hf
    obtain ⟨_, _, _, _, n, _, offset, _, payload, hp, hr⟩ := hf
    cases hr
    rw [Checked.length_of_slice? hp]
    exact n.toNat_lt

/-- How many bytes a caller hands over where the driver sets no limit: a list of channels, or a
payload. -/
def Call.size : Call → Nat
  | .scan bytes _ | .sendData bytes _ => bytes.length
  | _ => 0

namespace Checked

open Session (view update onLink onPorts stack report setConnection count)

variable {σ α β : Type}

theorem onPorts_bind (x : ExceptT DriverError (StateM (PortAllocator × Link σ)) α)
    (f : α → ExceptT DriverError (StateM (PortAllocator × Link σ)) β) :
    onPorts (x >>= f) = (onPorts x >>= fun a ↦ onPorts (f a) : Session.Act σ β) := by
  funext s
  simp only [Session.bind_apply, onPorts, work_bind_apply]
  rcases x (s.driver.ports, s.link) with ⟨e | a, t⟩ <;> rfl

theorem Yields.onLink {P : α → Prop} {w : Link.Work σ α} (h : Yields P w) :
    Yields P (Session.onLink w) := fun s a ha ↦ h s.link a ha

theorem ensureReady_bind {g : Unit → Act σ α} {f : Unit → Session.Act σ α}
    (h : ∀ a, Agrees (g a) (f a)) :
    Agrees (lift Session.ensureReady >>= g) (Session.ensureReady >>= f) :=
  .lift_bind (base_of_intact Session.ensureReady_routine) h

variable [Platform σ]

theorem count_agrees (f : NetDevice → NetDevice) (role : Role) :
    Agrees (lift (count f role) : Act σ Unit) (count f role) :=
  .lift (base_of_intact (Session.count_intact f role))

/-- What goes on with a port of the chip's choice may rely on there being such a port. -/
theorem tryAcquire_bind {k : Option UInt8 → Act σ α} {f : Option Nat → Session.Act σ α}
    (hn : Agrees (k none) (f none))
    (hp : ∀ port < maxPort, Agrees (k (some (UInt8.ofNat port))) (f (some port))) :
    Agrees (tryAcquire >>= k) (onPorts PortAllocator.tryAcquire >>= f) := by
  intro s hs
  have hl : (onLink (ExceptT.adapt (fun _ ↦ DriverError.sendData)
      (Link.read16 Register.writableLow Register.writableHigh)) : Session.Act σ UInt16) s =
      let r := Link.read16 Register.writableLow Register.writableHigh s.link
      (r.1.mapError fun _ ↦ .sendData, { s with link := r.2 }) := rfl
  simp only [tryAcquire, Act.bind_apply, Session.bind_apply, lift, hl, onPorts,
    PortAllocator.tryAcquire]
  rcases Link.read16 Register.writableLow Register.writableHigh s.link with ⟨e | w, l⟩
  · exact ⟨rfl, hs⟩
  · simp only [Except.mapError, update, view, compute, nextWritable?_eq, Except.map]
    cases ha : (s.driver.ports.setWritable w).nextWritable? with
    | none => exact hn _ hs
    | some next => exact hp next.1 (lt_of_nextWritable? ha) _ hs

theorem acquire_bind {k : UInt8 → Act σ α} {f : Nat → Session.Act σ α}
    (h : ∀ port < maxPort, Agrees (k (UInt8.ofNat port)) (f port)) (n : Nat) :
    Agrees (acquire n >>= k) (onPorts (poll .writePort PortAllocator.tryAcquire n) >>= f) := by
  induction n with
  | zero => exact .throw _
  | succ n ih =>
    rw [acquire, poll, onPorts_bind, bind_assoc, bind_assoc]
    exact tryAcquire_bind ih h

theorem readFrame_yields (snapshot : Snapshot) (port : Nat) :
    Yields (fun frame ↦ frameHeaderSize ≤ frame.length ∧ frame.length ≤ maxFrame)
      (Session.readFrame snapshot port : Session.Act σ Bytes) := by
  simp only [Session.readFrame]
  split
  · exact .throw _
  · refine .bind fun address ↦ .onLink (.adapt ?_)
    intro l frame hf
    simp only [Link.readBlock, Link.perform] at hf
    generalize (Platform.readBlock address .fifo (snapshot.frameLength port).toNat l.device).1 = r
      at hf
    cases r with
    | error e => cases hf
    | ok b =>
      cases hf
      rw [Bytes.length_fit]
      omega

theorem readFrame_agrees (s : Snapshot) {port : Nat} (h : port < maxPort) :
    Agrees (readFrame s (UInt8.ofNat port) : Act σ Bytes) (Session.readFrame s port) := by
  refine .compute_bind (frameLength_eq s h) ?_
  exact .ite (fun _ ↦ .throw _) fun _ ↦ (address_agrees h).bind fun _ ↦ .lift fun _ ↦ rfl

theorem readControlPort_yields :
    Yields (fun base ↦ base.toNat < 0x1000000) (readControlPort : Link.Transfer σ UInt32) := by
  refine .bind fun a ↦ .bind fun b ↦ .bind fun c ↦ .pure ?_
  have hl : leNat [a, b, c] < Nat.pow 256 3 := leNat_lt [a, b, c]
  have hp : Nat.pow 256 3 = 0x1000000 := by decide
  rw [hp] at hl
  have hn : leNat [a, b, c] < UInt32.size := Nat.lt_trans hl (by decide)
  rw [UInt32.toNat_ofNat_of_lt' hn]
  exact hl

theorem powerUp_yields :
    Yields (fun base ↦ base.toNat < 0x1000000) (Session.powerUp : Session.Act σ UInt32) := by
  refine .bind fun image ↦ .bind fun bytes ↦ .bind fun budgets ↦ .onLink ?_
  refine .bind fun _ ↦ .bind_of readControlPort_yields.adapt fun base hb ↦ ?_
  exact .bind fun _ ↦ .bind fun _ ↦ .pure hb

theorem powerUp_base (s : Session σ) : (Session.powerUp s).2.driver.base = s.driver.base :=
  congrArg (·.base) (Session.powerUp_silent s).kept

section

variable [Machine]

theorem transmit_agrees {payload : Bytes} (h : txDescriptorSize + payload.length ≤ maxSlice)
    (role : Role) :
    Agrees (transmit payload role : Act σ Unit) (Session.transmit payload role) :=
  .attempt_map_bind (buildFrame_eq h role) fun _ _ ↦ .view_bind fun budget ↦
    acquire_bind (fun _ hp ↦ (address_agrees hp).bind fun _ ↦ .lift fun _ ↦ rfl)
      budget.maxTries.toNat

theorem sendData_agrees {payload : Bytes} (h : txDescriptorSize + payload.length ≤ maxSlice)
    (role : Role) :
    Agrees (sendData payload role : Act σ Unit) (Session.sendData payload role) := by
  refine ensureReady_bind fun _ ↦ ?_
  refine ((transmit_agrees h role).tryCatch fun e ↦ ?_).bind fun _ ↦ count_agrees _ role
  exact (count_agrees _ role).bind fun _ ↦ .throw e

theorem forward_agrees {payload : Bytes} (h : txDescriptorSize + payload.length ≤ maxSlice) :
    Agrees (forward payload : Act σ Unit) (Session.forward payload) :=
  ((sendData_agrees h .uap).bind fun _ ↦ count_agrees _ _).tryCatch fun _ ↦ count_agrees _ _

theorem onData_agrees (frame : Bytes) :
    Agrees (onData frame : Act σ Unit) (Session.onData frame) := by
  refine .compute_bind (received_eq frame) ?_
  unfold Session.onData
  cases hr : DataFrame.parse frame with
  | error e => exact count_agrees _ _
  | ok r =>
    have hl : txDescriptorSize + r.payload.length ≤ maxSlice := by
      have hp := DataFrame.length_payload_of_parse hr
      have hm := le_maxSlice
      rw [txDescriptorSize]
      omega
    have hd (route : DataFrame.Route) : Agrees (do
        if route.delivers then
          lift (do
            count (NetDevice.countRx · r.payload.length) r.role
            stack (.deliver r.payload r.role)) : Act σ Unit)
        (do
          if route.delivers then
            count (NetDevice.countRx · r.payload.length) r.role
            stack (.deliver r.payload r.role)) := by
      refine .ite (fun _ ↦ .lift (base_of_intact ?_)) fun _ ↦ .pure _
      exact (Session.count_intact _ _).bind fun _ ↦ Session.intact_routine.stack _
    refine .view_bind fun route ↦ ?_
    refine .ite (fun _ ↦ ?_) fun _ ↦ hd route
    exact (forward_agrees hl).bind fun _ ↦ hd route

/-- No frame that the chip can hand over puts the driver at fault. -/
theorem receive_agrees {frame : Bytes} (h : frameHeaderSize ≤ frame.length)
    (h' : frame.length ≤ maxFrame) :
    Agrees (receive frame : Act σ Unit) (Session.receive frame) := by
  have hl : frame.length ≤ maxSlice := Nat.le_trans h' (Nat.le_trans (by decide) le_maxSlice)
  match frame, h with
  | a :: b :: kind :: rest, _ =>
    have hk : index (a :: b :: kind :: rest) 2 = .ok kind := rfl
    refine .compute_bind hk ?_
    simp only [Session.receive]
    cases FrameKind.ofCode kind with
    | data => exact onData_agrees _
    | command => exact onResponse_agrees hl
    | event => exact onEvent_agrees hl
    | other _ => exact .pure _

/-- The frames of one interrupt are dealt with one after the other. -/
theorem drain_agrees (s : Snapshot) (n : Nat) :
    Agrees (drain s n : Act σ Unit) (Session.drain s n) := by
  induction n with
  | zero => exact .pure _
  | succ n ih =>
    refine .view_compute_map_bind (fun d ↦ nextReadable?_eq d.ports) fun d ↦ ?_
    cases hp : d.ports.nextReadable? with
    | none => exact .pure _
    | some next =>
      have hr := readFrame_agrees (σ := σ) s (lt_of_nextReadable? hp)
      refine .update_bind (fun _ ↦ rfl) fun _ ↦ hr.bind_of (readFrame_yields s _) fun frame hf ↦ ?_
      exact (receive_agrees hf.1 hf.2).bind fun _ ↦ ih

theorem serviceInterrupt_agrees :
    Agrees (serviceInterrupt : Act σ Unit) Session.serviceInterrupt :=
  .lift_bind (fun _ ↦ rfl) fun _ ↦ .lift_bind (fun _ ↦ rfl) fun _ ↦
    .update_bind (fun _ ↦ rfl) fun _ ↦ drain_agrees _ _

theorem init_agrees : Agrees (init : Act σ Unit) Session.init := by
  have hp : Agrees (lift Session.powerUp : Act σ UInt32) Session.powerUp := .lift powerUp_base
  refine (hp.tryCatch fun e ↦ .lift_bind (fun _ ↦ rfl) fun _ ↦ .throw e).bind_of
    (powerUp_yields.tryCatch fun e ↦ .bind fun _ ↦ .throw e) fun base hb ↦ ?_
  -- Here, and only here, the base changes.
  have hu : Agrees (lift (update fun d ↦ { d with base, boot := .start }) : Act σ Unit)
      (update fun d ↦ { d with base, boot := .start }) := fun _ _ ↦ ⟨rfl, hb⟩
  exact hu.bind fun _ ↦ pumpBootstrap_agrees

theorem startScan_agrees {params : Built Bytes} {r : Except DriverError Tlv.Block}
    (h : params = ExceptT.mk (.ok (r.map (·.bytes))))
    (hl : ∀ b, r = .ok b → b.bytes.length ≤ 0x300000) :
    Agrees (startScan params : Act σ Unit) (Session.startScan r) := by
  refine ensureReady_bind fun _ ↦ .view_bind fun status ↦ ?_
  refine .ite (fun _ ↦ .throw _) fun _ ↦ ?_
  exact .attempt_map_bind h fun b hb ↦ issue_block_agrees (hl b hb) .scan .get

theorem connect_agrees (ssid passphrase : Bytes) :
    Agrees (connect ssid passphrase : Act σ Unit) (Session.connect ssid passphrase) := by
  refine ensureReady_bind fun _ ↦ .view_bind fun requested ↦ ?_
  refine .lift_bind (fun s ↦ by rw [Session.liftM_apply]) fun c ↦ ?_
  refine .lift_bind (fun _ ↦ rfl) fun _ ↦ .update_bind (fun _ ↦ rfl) fun _ ↦ ?_
  refine sendConnectScan_agrees.tryCatch fun e ↦ ?_
  exact .view_bind fun _ ↦ .lift_bind (fun _ ↦ rfl) fun _ ↦ .throw e

theorem disconnect_agrees : Agrees (disconnect : Act σ Unit) Session.disconnect := by
  refine .view_bind fun status ↦ ?_
  exact .ite (fun _ ↦ issue_nil_agrees .deauthenticate .get) fun _ ↦ .pure _

theorem startAp_agrees (settings : ApSettings) :
    Agrees (startAp settings : Act σ Unit) (Session.startAp settings) := by
  refine ensureReady_bind fun _ ↦ ?_
  refine .attempt_map_bind (accessPoint_eq settings) fun block hb ↦ ?_
  have hl := length_of_few (length_apElements settings) hb
  refine .ite (fun _ ↦ issue_nil_agrees .bssStart .get) fun _ ↦ ?_
  exact issue_block_agrees (Nat.le_trans hl (by decide)) .sysConfigure .set

/-- What a caller hands over lies in memory. -/
def InMemory (c : Call) : Prop := c.size ≤ memory

instance (c : Call) : Decidable (InMemory c) := inferInstanceAs (Decidable (_ ≤ _))

theorem perform_agrees {c : Call} (h : InMemory c) :
    Agrees (perform c : Act σ Unit) (Session.perform c) := by
  have hm := le_maxSlice
  have hr := memory_le
  cases c with
  | init => exact init_agrees
  | shutdown => exact issue_nil_agrees .funcShutdown .get
  | serviceInterrupt => exact serviceInterrupt_agrees
  | scan channels maxTime =>
    have hl : 7 * channels.length ≤ maxSlice := by
      simp only [InMemory, Call.size] at h
      omega
    refine startScan_agrees (scanChannels_eq hl maxTime) fun b hb ↦ ?_
    exact Nat.le_trans (length_of_scanChannels hb) (by decide)
  | scanSsid ssid maxTime =>
    refine startScan_agrees (scanSsid_eq ssid maxTime) fun b hb ↦ ?_
    exact Nat.le_trans (length_of_scanSsid hb) (by decide)
  | connect ssid passphrase => exact connect_agrees ssid passphrase
  | disconnect => exact disconnect_agrees
  | startAp settings => exact startAp_agrees settings
  | stopAp => exact ensureReady_bind fun _ ↦ issue_nil_agrees .bssStop .get
  | deauthClient mac =>
    refine ensureReady_bind fun _ ↦ issue_agrees ?_ .staDeauth .get
    exact Nat.le_trans (by rw [Mac.length_toBytes]; decide) hm
  | sendData payload role =>
    refine sendData_agrees ?_ role
    simp only [InMemory, Call.size] at h
    rw [txDescriptorSize]
    omega
  | leased mac lease =>
    exact .lift (base_of_intact (Session.leased_confined Session.intact_routine.confined mac lease))

theorem run_agrees {calls : List Call} (h : ∀ c ∈ calls, InMemory c) {s : Session σ}
    (hs : Based s) :
    run calls s = .ok (Session.run calls s) ∧ Based (Session.run calls s).2 := by
  induction calls generalizing s with
  | nil => exact ⟨rfl, hs⟩
  | cons c calls ih =>
    obtain ⟨hc, hb⟩ := perform_agrees (h c List.mem_cons_self) s hs
    obtain ⟨hr, ht⟩ := ih (fun d hd ↦ h d (List.mem_cons_of_mem _ hd)) hb
    refine ⟨?_, ht⟩
    rw [run, hc, ok_bind, hr]
    rfl

/-- Whatever the applications ask for and whatever the chip answers, the driver is never at fault,
and it does what it does where nothing can be at fault. In every state that it comes to, with any
ports ready and any of them next, the same holds of any registers and of any frame. -/
theorem run_faultless (config : Config) (firmware : FirmwareSource) (device : σ)
    {calls : List Call} (h : ∀ c ∈ calls, InMemory c) :
    let s := Session.fresh config firmware device
    run calls s = .ok (Session.run calls s) ∧
      ∀ ports : PortAllocator,
        let t := (Session.run calls s).2
        let u : Session σ := { t with driver := { t.driver with ports } }
        (∀ registers n, drain registers n u = .ok (Session.drain registers n u)) ∧
          ∀ frame : Bytes, frameHeaderSize ≤ frame.length → frame.length ≤ maxFrame →
            receive frame u = .ok (Session.receive frame u) := by
  intro s
  have hz : s.driver.base = 0 := rfl
  have hs : Based s := by
    rw [Based, hz]
    decide
  obtain ⟨hr, ht⟩ := run_agrees h hs
  refine ⟨hr, ?_⟩
  intro ports t u
  have hu : Based u := ht
  refine ⟨?_, ?_⟩
  · intro registers n
    exact (drain_agrees registers n u hu).1
  · intro frame hl hl'
    exact (receive_agrees hl hl' u hu).1

end

/-- A caller's scan, and a connection for which the key goes out. -/
theorem run_faultless_keyed :
    let calls := ScriptedChip.booted
      [.scan [1, 6, 11] 100, .serviceInterrupt, .connect [65] [112], .serviceInterrupt,
        .serviceInterrupt]
    let s := ScriptedChip.start [ScriptedChip.response .scan 0 ScriptedChip.openNetwork,
      ScriptedChip.response .scan 0 ScriptedChip.securedNetwork,
      ScriptedChip.response .supplicantPmk 0 []]
    (∀ c ∈ calls, @InMemory words64 c) ∧
      (@run _ words64 _ calls s).map (·.1) = .ok (List.replicate 10 (.ok ())) := by
  intro calls s
  have hm : ∀ c ∈ calls, @InMemory words64 c := by decide
  have hs : Session.fresh {} (.image [165, 165]) s.link.device = s := rfl
  have ho : (Session.run calls s).1 = List.replicate 10 (.ok ()) := by decide +kernel
  obtain ⟨hr, -⟩ := @run_faultless _ _ words64 {} (.image [165, 165]) s.link.device calls hm
  rw [hs] at hr
  refine ⟨hm, ?_⟩
  rw [hr]
  exact congrArg Except.ok ho

end Checked

end SdioWlan
