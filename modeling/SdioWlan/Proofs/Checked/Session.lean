import SdioWlan.Proofs.Checked.Frames
import SdioWlan.Proofs.Checked.Scanning
import SdioWlan.Proofs.Checked.State
import SdioWlan.Proofs.Checked.Work
import SdioWlan.Startup

namespace SdioWlan.Checked

open Session (view update onLink stack report setConnection count)

variable {σ α : Type}

def address (port : UInt8) : Act σ UInt32 := do
  compute (portAddress (← lift (view (·.base))) port)

def required (field : Except Fault (Option α)) : Act σ α := do
  match ← compute field with
  | some a => return a
  | none => throw .malformedFrame

variable [Machine] [Platform σ]

def emit (c : Command) (place : UInt32) (frame : Bytes) : Session.Act σ Unit := do
  update fun d ↦ { d with channel := { d.channel with held := true, buffer := frame } }
  let outcome ← observe (Link.writeBlock place .fifo frame)
  update fun d ↦ { d with channel := d.channel.release c.id outcome }
  match outcome with
  | .error e => throw (.transfer e)
  | .ok () =>
    if c.id = .scan then update fun d ↦ { d with connection := d.connection.scanSent }
where
  observe (w : Link.Transfer σ Unit) : Session.Act σ (Except Errno Unit) := fun s ↦
    let r := w s.link
    (.ok r.1, { s with link := r.2 })

def sendCommand (c : Command) : Act σ Unit := do
  if ← lift (view (·.channel.held)) then throw .busy
  else
    let written ← attempt (serialize c (List.replicate maxFrame 0))
    let place ← address 0
    let frame ← compute (slice written.2 0 written.1)
    lift (emit c place frame)

def issue (id : CommandId) (action : CommandAction) (payload : Bytes) : Act σ Unit := do
  let target ← lift (view (·.connection.target))
  let c ← attempt (encode id action payload ⟨target.bssid, target.capability⟩)
  match gate id target.security with
  | .sendNow => sendCommand c
  | .stage => lift (update fun d ↦ { d with channel := d.channel.stage c })

def pumpBootstrap : Act σ Unit := do
  let next ← lift (view (·.boot.take))
  lift (update fun d ↦ { d with boot := next.2 })
  match next.1 with
  | none => pure ()
  | some id =>
    try issue id .get []
    catch e =>
      lift (Session.failBoot e)
      throw e

def sendConnectScan : Act σ Unit := do
  let target ← lift (view (·.connection.target))
  let time ← lift (view (·.config.scanTime))
  let block ← attempt (scanSsid target.ssid time)
  issue .scan .get block

def connectFailed (why : ConnectFailure) : Act σ Unit := do
  lift (update (·.clearStaged))
  let next ← compute (attemptFailed (← lift (view (·.connection))))
  lift (setConnection next.2)
  match next.1 with
  | .giveUp => lift (report (.connected (.error why)))
  | .rescan =>
    try sendConnectScan
    catch e => lift (do
      setConnection (← view (·.connection.abort))
      report (.connected (.error (.command e))))

def issueAssociation (block : Bytes) (b : Bss) : Act σ Unit := do
  let block ← attempt (addSecurity block b.security b.vendor b.rsn)
  issue .associate .get block

def associate (b : Bss) : Act σ Unit := do
  lift (setConnection (← lift (view (·.connection.setPeer b.bssid b.capability b.security))))
  let target ← lift (view (·.connection.target))
  let block ← attempt (association target.ssid b.channel b.security)
  if b.security.needsKey then
    let key ← attempt (masterKey target.ssid b.bssid target.passphrase)
    issue .supplicantPmk .set key
    issueAssociation block b
  else issueAssociation block b

def scanFailed (verdict : Connection.ScanVerdict) (e : DriverError) : Act σ Unit :=
  match verdict with
  | .connect => connectFailed (.command e)
  | .plain => lift (report (.scanResult none))
  | .stale => pure ()

def pickNetwork (networks : List Bss) : Act σ Unit := do
  let ssid ← lift (view (·.connection.target.ssid))
  match networks.find? (·.ssid == ssid) with
  | none => connectFailed .notFound
  | some b =>
    try associate b
    catch e => connectFailed (.command e)

def onScan (body : Bytes) : Act σ Unit := do
  let verdict ← lift Session.takeScan
  match ← compute (scanReport body) with
  | .error e =>
    scanFailed verdict e
    throw e
  | .ok r =>
    match verdict with
    | .stale => pure ()
    | .plain => lift (Session.reportNetworks (← compute (networks r.count r.sets)).1)
    | .connect => pickNetwork (← compute (networks r.count r.sets)).1

def learn (id : CommandId) (body : Bytes) : Act σ Unit :=
  match id with
  | .getHwSpec => do
    let last ← required (u16At body 43)
    lift (update fun d ↦ { d with ports := { d.ports with endPort := last } })
  | .macAddr => do
    let mac ← required (macAt body 2)
    lift (update fun d ↦ { d with mac, sta := d.sta.setMac mac, uap := d.uap.setMac mac })
  | _ => pure ()

def onBoot (id : CommandId) (body : Bytes) : Act σ Unit := do
  learn id body
  let advanced ← lift (view (·.boot.advance id))
  lift (update fun d ↦ { d with boot := advanced.2 })
  match advanced.1 with
  | .next _ => pumpBootstrap
  | .done => lift (do
    let mac ← view (·.mac)
    stack (.interfaceUp mac)
    report (.initialized (.ok mac)))
  | .notMine => pure ()

def onAssociate (body : Bytes) : Act σ Unit := do
  let capability ← required (u16At body 0)
  match AssocRefusal.ofCapability? capability with
  | none => pure ()
  | some r =>
    if (← lift (view (·.connection.status))) = .connecting then connectFailed (.refused r)

def onKey : Act σ Unit := do
  let staged ← lift (view (·.channel.staged))
  lift (update (·.clearStaged))
  match staged with
  | none => pure ()
  | some c =>
    try sendCommand c
    catch e => connectFailed (.command e)

def onConfigured : Act σ Unit := do
  try issue .bssStart .get []
  catch e => lift (report (.apStarted (.error e)))

def commandFailed (id : CommandId) (e : DriverError) : Act σ Unit :=
  match id with
  | .funcInit | .macControl | .getHwSpec | .macAddr => do
    if ← lift (view (·.boot.isReady)) then pure () else lift (Session.failBoot e)
  | .scan => do scanFailed (← lift Session.takeScan) e
  | .supplicantPmk | .associate => do
    if (← lift (view (·.connection.status))) = .connecting then connectFailed (.command e)
  | .sysConfigure | .bssStart => lift (report (.apStarted (.error e)))
  | _ => pure ()

def commandDone (id : CommandId) (body : Bytes) : Act σ Unit :=
  match id with
  | .funcInit | .macControl | .getHwSpec | .macAddr => onBoot id body
  | .funcShutdown => lift Session.onShutdown
  | .scan => onScan body
  | .associate => onAssociate body
  | .supplicantPmk => onKey
  | .sysConfigure => onConfigured
  | .bssStop => lift Session.onStopped
  | .deauthenticate | .bssStart | .staDeauth | .addbaRsp | .unknown _ => pure ()

def onResponse (frame : Bytes) : Act σ Unit := do
  let h ← required (header frame)
  let body := (range? frame CommandHeader.length frame.length).getD []
  lift (update fun d ↦ { d with channel := (d.channel.respond h.id).2 })
  if h.result ≠ 0 then
    let e := .rejected h.id.code h.result
    commandFailed h.id e
    throw e
  else commandDone h.id body

def onClientLeft (body : Bytes) : Act σ Unit := do
  let mac ← required (macAt body 2)
  match ← compute (evict? (← lift (view (·.clients))) mac) with
  | none => pure ()
  | some left => lift (do
    update fun d ↦ { d with clients := left.2 }
    let lease ← Session.eraseLease mac
    report (.clientDisconnected mac lease))

def onClientJoined (body : Bytes) : Act σ Unit := do
  let mac ← required (macAt body 2)
  match ← compute (admit? (← lift (view (·.clients))) mac) with
  | some joined => lift (update fun d ↦ { d with clients := joined.2 })
  | none => issue .staDeauth .get mac.toBytes

def onEventOf (id : EventId) (body : Bytes) : Act σ Unit :=
  match id with
  | .deauthenticated => lift Session.onDeauthenticated
  | .portRelease => lift Session.onPortRelease
  | .uapStaDeauth => onClientLeft body
  | .uapStaAssoc => onClientJoined body
  | .uapBssStart => lift Session.onApStarted
  | .addba => issue .addbaRsp .get body
  | .delba | .wmmStatusChange | .uapBssIdle | .uapBssActive | .uapRsnConnect | .unknown _ =>
    pure ()

def onEvent (frame : Bytes) : Act σ Unit := do
  if frame.length < eventHeaderSize then throw .malformedFrame
  else
    let id ← compute (word frame 4)
    let body ← compute (sliceFrom frame eventHeaderSize)
    onEventOf (.ofCode id) body

def tryAcquire : Act σ (Option UInt8) := do
  let s ← lift (onLink
    (ExceptT.adapt (fun _ ↦ .sendData) (Link.read16 Register.writableLow Register.writableHigh)))
  lift (update fun d ↦ { d with ports := d.ports.setWritable s })
  match ← compute (nextWritable? (← lift (view (·.ports)))) with
  | none => return none
  | some (port, ports) =>
    lift (update fun d ↦ { d with ports })
    return some port

def acquire : Nat → Act σ UInt8
  | 0 => throw (.timeout .writePort)
  | n + 1 => do
    match ← tryAcquire with
    | some port => return port
    | none => acquire n

def transmit (payload : Bytes) (role : Role) : Act σ Unit := do
  let frame ← attempt (buildFrame payload role)
  let budget ← lift (view (·.config.writePortBudget))
  let port ← acquire budget.maxTries.toNat
  let place ← address port
  lift (onLink (ExceptT.adapt (fun _ ↦ .sendData) (Link.writeBlock place .fifo frame)))

def sendData (payload : Bytes) (role : Role) : Act σ Unit := do
  lift Session.ensureReady
  try transmit payload role
  catch e =>
    lift (count NetDevice.countTxError role)
    throw e
  lift (count (NetDevice.countTx · payload.length) role)

def forward (payload : Bytes) : Act σ Unit := do
  try
    sendData payload .uap
    lift (count NetDevice.countForwarded .uap)
  catch _ => lift (count NetDevice.countTxDropped .uap)

def onData (frame : Bytes) : Act σ Unit := do
  match ← compute (received frame) with
  | .error _ => lift (count NetDevice.countRxDropped .sta)
  | .ok r =>
    let route ← lift (view fun d ↦ r.route d.mac)
    if route.forwards then forward r.payload
    if route.delivers then
      lift (do
        count (NetDevice.countRx · r.payload.length) r.role
        stack (.deliver r.payload r.role))

def receive (frame : Bytes) : Act σ Unit := do
  match FrameKind.ofCode (← compute (index frame 2)) with
  | .data => onData frame
  | .command => onResponse frame
  | .event => onEvent frame
  | .other _ => pure ()

def readFrame (s : Snapshot) (port : UInt8) : Act σ Bytes := do
  let n := (← compute (frameLength s port)).toNat
  if n < frameHeaderSize ∨ maxFrame < n then throw .receive
  else
    let place ← address port
    lift (onLink (ExceptT.adapt (fun _ ↦ .receive) (Link.readBlock place .fifo n)))

def drain (s : Snapshot) : Nat → Act σ Unit
  | 0 => pure ()
  | n + 1 => do
    match ← compute (nextReadable? (← lift (view (·.ports)))) with
    | none => pure ()
    | some (port, ports) =>
      lift (update fun d ↦ { d with ports })
      receive (← readFrame s port)
      drain s n

def serviceInterrupt : Act σ Unit := do
  let s ← lift (onLink (ExceptT.adapt (fun _ ↦ .interruptStatus) Snapshot.read))
  lift (onLink (ExceptT.adapt (fun _ ↦ .interruptStatus) s.clearUpload))
  lift (update fun d ↦ { d with ports := d.ports.refresh s.readable s.writable })
  drain s maxPort

def init : Act σ Unit := do
  let base ←
    try lift Session.powerUp
    catch e =>
      lift (Session.failBoot e)
      throw e
  lift (update fun d ↦ { d with base, boot := .start })
  pumpBootstrap

def startScan (params : Built Bytes) : Act σ Unit := do
  lift Session.ensureReady
  if (← lift (view (·.connection.status))) = .connecting then throw .invalidState
  else
    let block ← attempt params
    issue .scan .get block

def connect (ssid passphrase : Bytes) : Act σ Unit := do
  lift Session.ensureReady
  let requested ← lift (view (·.connection.request ssid passphrase))
  lift (setConnection (← lift requested))
  lift (update (·.clearStaged))
  try sendConnectScan
  catch e =>
    lift (setConnection (← lift (view (·.connection.abort))))
    throw e

def disconnect : Act σ Unit := do
  if (← lift (view (·.connection.status))) = .connected then issue .deauthenticate .get []

def startAp (settings : ApSettings) : Act σ Unit := do
  lift Session.ensureReady
  let block ← attempt (accessPoint settings)
  if block = [] then issue .bssStart .get [] else issue .sysConfigure .set block

def perform : Call → Act σ Unit
  | .init => init
  | .shutdown => issue .funcShutdown .get []
  | .serviceInterrupt => serviceInterrupt
  | .scan channels maxTime => startScan (scanChannels channels maxTime)
  | .scanSsid ssid maxTime => startScan (scanSsid ssid maxTime)
  | .connect ssid passphrase => connect ssid passphrase
  | .disconnect => disconnect
  | .startAp settings => startAp settings
  | .stopAp => do
    lift Session.ensureReady
    issue .bssStop .get []
  | .deauthClient mac => do
    lift Session.ensureReady
    issue .staDeauth .get mac.toBytes
  | .sendData payload role => sendData payload role
  | .leased mac lease => lift (Session.leased mac lease)

def run (calls : List Call) (s : Session σ) :
    Except Fault (List (Except DriverError Unit) × Session σ) :=
  match calls with
  | [] => .ok ([], s)
  | c :: rest => do
    let r ← perform c s
    let t ← run rest r.2
    return (r.1 :: t.1, t.2)

end SdioWlan.Checked
