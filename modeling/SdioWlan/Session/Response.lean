import SdioWlan.Reply
import SdioWlan.Session.Command
import SdioWlan.Text

namespace SdioWlan.Session

variable {σ : Type} [Platform σ]

def required {α : Type} (field : Option α) : Except DriverError α :=
  match field with
  | some a => .ok a
  | none => .error .malformedFrame

def takeScan : Act σ Connection.ScanVerdict := do
  let answered ← view (·.connection.scanAnswered)
  setConnection answered.2
  return answered.1

/-- A scan has failed: the attempt that it belongs to, or just the caller's scan, which is over. -/
def scanFailed (verdict : Connection.ScanVerdict) (e : DriverError) : Act σ Unit :=
  match verdict with
  | .connect => connectFailed (.command e)
  | .plain => report (.scanResult none)
  | .stale => pure ()

def resultOf (b : Bss) : ScanResult :=
  { ssid := String.ofList (Text.Utf8.decodeLossy b.ssid)
    bssid := b.bssid
    rssi := b.rssi
    channel := b.channel
    security := b.security }

def reportNetworks : List Bss → Act σ Unit
  | [] => report (.scanResult none)
  | b :: bs => do
    report (.scanResult (some (resultOf b)))
    reportNetworks bs

def pickNetwork (networks : List Bss) : Act σ Unit := do
  let ssid ← view (·.connection.target.ssid)
  match networks.find? (·.ssid == ssid) with
  | none => connectFailed .notFound
  | some b =>
    try associate b
    catch e => connectFailed (.command e)

def onScan (body : Bytes) : Act σ Unit := do
  let verdict ← takeScan
  match ScanReport.parse body with
  | .error e =>
    scanFailed verdict e
    throw e
  | .ok r =>
    match verdict with
    | .stale => pure ()
    | .plain => reportNetworks r.networks
    | .connect => pickNetwork r.networks

def learn (id : CommandId) (body : Bytes) : Act σ Unit :=
  match id with
  | .getHwSpec => do
    let last ← required (Reply.endPort? body)
    update fun d ↦ { d with ports := { d.ports with endPort := last } }
  | .macAddr => do
    let mac ← required (Reply.address? body)
    update fun d ↦ { d with mac, sta := d.sta.setMac mac, uap := d.uap.setMac mac }
  | _ => pure ()

def onBoot (id : CommandId) (body : Bytes) : Act σ Unit := do
  learn id body
  let advanced ← view (·.boot.advance id)
  update fun d ↦ { d with boot := advanced.2 }
  match advanced.1 with
  | .next _ => pumpBootstrap
  | .done =>
    let mac ← view (·.mac)
    stack (.interfaceUp mac)
    report (.initialized (.ok mac))
  | .notMine => pure ()

/-- An attempt under way ends when the access point refuses it. A late refusal means nothing. -/
def onAssociate (body : Bytes) : Act σ Unit := do
  let capability ← required (Reply.capability? body)
  match AssocRefusal.ofCapability? capability with
  | none => pure ()
  | some r =>
    if (← view (·.connection.status)) = .connecting then connectFailed (.refused r)

/-- The chip has the key, so the association that waits for it can go out. -/
def onKey : Act σ Unit := do
  let staged ← view (·.channel.staged)
  update (·.clearStaged)
  match staged with
  | none => pure ()
  | some c =>
    try sendCommand c
    catch e => connectFailed (.command e)

def onShutdown : Act σ Unit := do
  update fun d ↦
    { d.clearStaged with
      boot := .reset, connection := d.connection.reset, clients := d.clients.clear }
  report (.initialized (.error .invalidState))

def onConfigured : Act σ Unit := do
  try issue .bssStart .get []
  catch e => report (.apStarted (.error e))

def onStopped : Act σ Unit := do
  update fun d ↦ { d with uap := d.uap.carrierOff, clients := d.clients.clear }
  stack (.linkDown .uap)
  report .apStopped

def commandFailed (id : CommandId) (e : DriverError) : Act σ Unit :=
  match id with
  | .funcInit | .macControl | .getHwSpec | .macAddr => do
    if ← view (·.boot.isReady) then pure () else failBoot e
  | .scan => do scanFailed (← takeScan) e
  | .supplicantPmk | .associate => do
    if (← view (·.connection.status)) = .connecting then connectFailed (.command e)
  | .sysConfigure | .bssStart => report (.apStarted (.error e))
  | _ => pure ()

def commandDone (id : CommandId) (body : Bytes) : Act σ Unit :=
  match id with
  | .funcInit | .macControl | .getHwSpec | .macAddr => onBoot id body
  | .funcShutdown => onShutdown
  | .scan => onScan body
  | .associate => onAssociate body
  | .supplicantPmk => onKey
  | .sysConfigure => onConfigured
  | .bssStop => onStopped
  | .deauthenticate | .bssStart | .staDeauth | .addbaRsp | .unknown _ => pure ()

def onResponse (frame : Bytes) : Act σ Unit := do
  let h ← required (CommandHeader.parse? frame)
  update fun d ↦ { d with channel := (d.channel.respond h.id).2 }
  if h.result ≠ 0 then
    let e := .rejected h.id.code h.result
    commandFailed h.id e
    throw e
  else commandDone h.id (frame.drop CommandHeader.length)

end SdioWlan.Session
