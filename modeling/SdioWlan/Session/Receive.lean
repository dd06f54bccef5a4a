import SdioWlan.DataFrame
import SdioWlan.Reply
import SdioWlan.Session.Response

namespace SdioWlan.Session

variable {σ : Type} [Platform σ]

def transmit (payload : Bytes) (role : Role) : Act σ Unit := do
  let packet ← DataFrame.build payload role
  let port ← onPorts (PortAllocator.acquire (← view (·.config.writePortBudget)))
  let address ← view fun d ↦ portAddress d.base port
  onLink (ExceptT.adapt (fun _ ↦ .sendData) (Link.writeBlock address .fifo packet.data))

theorem onLink_writeBlock (e : DriverError) (address : UInt32) (block : Bytes) (s : Session σ) :
    onLink (ExceptT.adapt (fun _ ↦ e) (Link.writeBlock address .fifo block)) s =
      let r := Platform.writeBlock address .fifo block s.link.device
      (r.1.mapError fun _ ↦ e,
        ⟨s.driver, ⟨r.2, .access (.writeBlock address .fifo block r.1) :: s.link.past⟩⟩) := rfl

def count (f : NetDevice → NetDevice) (role : Role) : Act σ Unit :=
  update fun d ↦ d.updateDevice f role

def sendData (payload : Bytes) (role : Role) : Act σ Unit := do
  ensureReady
  try transmit payload role
  catch e =>
    count NetDevice.countTxError role
    throw e
  count (NetDevice.countTx · payload.length) role

theorem sendData_of_not_ready {s : Session σ} (h : s.driver.boot.isReady = false) (payload : Bytes)
    (role : Role) : sendData payload role s = (.error .invalidState, s) :=
  ensureReady_bind_of_not_ready h _

theorem sendData_of_ready {s : Session σ} (h : s.driver.boot.isReady = true) (payload : Bytes)
    (role : Role) :
    sendData payload role s = match transmit payload role s with
      | (.error e, t) =>
        (.error e, { t with driver := t.driver.updateDevice NetDevice.countTxError role })
      | (.ok (), t) =>
        (.ok (), { t with
          driver := t.driver.updateDevice (NetDevice.countTx · payload.length) role }) := by
  simp only [sendData, ensureReady_bind_of_ready h, count, bind_apply, tryCatch_apply]
  rcases transmit payload role s with ⟨e | u, t⟩ <;> rfl

/-- Sends a client's frame on to another client. A failure is only counted. -/
def forward (payload : Bytes) : Act σ Unit := do
  try
    sendData payload .uap
    count NetDevice.countForwarded .uap
  catch _ => count NetDevice.countTxDropped .uap

def onDeauthenticated : Act σ Unit := do
  update fun d ↦
    { d.clearStaged with connection := d.connection.deauthenticated.2, sta := d.sta.carrierOff }
  stack (.linkDown .sta)
  report .disconnected

def onPortRelease : Act σ Unit := do
  update fun d ↦ { d with connection := d.connection.portReleased.2, sta := d.sta.carrierOn }
  stack (.linkUp .sta)
  report (.connected (.ok ()))

def onClientLeft (body : Bytes) : Act σ Unit := do
  let mac ← required (Reply.client? body)
  match ← view (·.clients.evict? mac) with
  | none => pure ()
  | some left =>
    update fun d ↦ { d with clients := left.2 }
    let lease ← eraseLease mac
    report (.clientDisconnected mac lease)

def onClientJoined (body : Bytes) : Act σ Unit := do
  let mac ← required (Reply.client? body)
  match ← view (·.clients.admit? mac) with
  | some joined => update fun d ↦ { d with clients := joined.2 }
  | none => issue .staDeauth .get mac.toBytes

def onApStarted : Act σ Unit := do
  update fun d ↦ { d with uap := d.uap.carrierOn }
  stack (.linkUp .uap)
  report (.apStarted (.ok ()))

def onEventOf (id : EventId) (body : Bytes) : Act σ Unit :=
  match id with
  | .deauthenticated => onDeauthenticated
  | .portRelease => onPortRelease
  | .uapStaDeauth => onClientLeft body
  | .uapStaAssoc => onClientJoined body
  | .uapBssStart => onApStarted
  | .addba => issue .addbaRsp .get body
  | .delba | .wmmStatusChange | .uapBssIdle | .uapBssActive | .uapRsnConnect | .unknown _ =>
    pure ()

def onEvent (frame : Bytes) : Act σ Unit :=
  match frame with
  | _ :: _ :: _ :: _ :: lo :: hi :: _ :: _ :: body => onEventOf (.ofCode (ofLe16 lo hi)) body
  | _ => throw .malformedFrame

/-- A data frame goes to this host, to another client, or to both. One that makes no sense is
dropped. -/
def onData (frame : Bytes) : Act σ Unit :=
  match DataFrame.parse frame with
  | .error _ => count NetDevice.countRxDropped .sta
  | .ok r => do
    let route ← view fun d ↦ r.route d.mac
    if route.forwards then forward r.payload
    if route.delivers then
      count (NetDevice.countRx · r.payload.length) r.role
      stack (.deliver r.payload r.role)

def receive (frame : Bytes) : Act σ Unit :=
  match frame with
  | _ :: _ :: kind :: _ =>
    match FrameKind.ofCode kind with
    | .data => onData frame
    | .command => onResponse frame
    | .event => onEvent frame
    | .other _ => pure ()
  | _ => throw .malformedFrame

def readFrame (s : Snapshot) (port : Nat) : Act σ Bytes := do
  let n := (s.frameLength port).toNat
  if n < frameHeaderSize ∨ maxFrame < n then throw .receive
  else
    let address ← view fun d ↦ portAddress d.base port
    onLink (ExceptT.adapt (fun _ ↦ .receive) (Link.readBlock address .fifo n))

def drain (s : Snapshot) : Nat → Act σ Unit
  | 0 => pure ()
  | n + 1 => do
    match ← view (·.ports.nextReadable?) with
    | none => pure ()
    | some (port, ports) =>
      update fun d ↦ { d with ports }
      receive (← readFrame s port)
      drain s n

/-- Reads the registers, acknowledges the interrupt, and deals with every frame that waits. No port
comes twice, so there are at most as many frames as ports. -/
def serviceInterrupt : Act σ Unit := do
  let s ← onLink (ExceptT.adapt (fun _ ↦ .interruptStatus) Snapshot.read)
  onLink (ExceptT.adapt (fun _ ↦ .interruptStatus) s.clearUpload)
  update fun d ↦ { d with ports := d.ports.refresh s.readable s.writable }
  drain s maxPort

end SdioWlan.Session
