import SdioWlan.Command
import SdioWlan.Params
import SdioWlan.ScanReport
import SdioWlan.Session

namespace SdioWlan.Session

variable {σ : Type} [Platform σ]

def sendCommand (c : Command) : Act σ Unit := do
  onChannel (CommandChannel.send (← view (·.base)) c)
  if c.id = .scan then update fun d ↦ { d with connection := d.connection.scanSent }

/-- Encodes a command for the present target, and writes it or keeps it back. -/
def issue (id : CommandId) (action : CommandAction) (payload : Bytes) : Act σ Unit := do
  let target ← view (·.connection.target)
  let c ← Command.encode id action payload ⟨target.bssid, target.capability⟩
  match gate id target.security with
  | .sendNow => sendCommand c
  | .stage => update fun d ↦ { d with channel := d.channel.stage c }

def failBoot (e : DriverError) : Act σ Unit := do
  update fun d ↦ { d with boot := d.boot.fail }
  report (.initialized (.error e))

def pumpBootstrap : Act σ Unit := do
  let next ← view (·.boot.take)
  update fun d ↦ { d with boot := next.2 }
  match next.1 with
  | none => pure ()
  | some id =>
    try issue id .get []
    catch e =>
      failBoot e
      throw e

def setConnection (c : Connection) : Act σ Unit := update fun d ↦ { d with connection := c }

def sendConnectScan : Act σ Unit := do
  let target ← view (·.connection.target)
  let block ← Params.scanSsid target.ssid (← view (·.config.scanTime))
  issue .scan .get block.bytes

/-- The attempt has failed. It is made again, or it is over and its failure is reported. -/
def connectFailed (why : ConnectFailure) : Act σ Unit := do
  update (·.clearStaged)
  let next ← view (·.connection.attemptFailed)
  setConnection next.2
  match next.1 with
  | .giveUp => report (.connected (.error why))
  | .rescan =>
    try sendConnectScan
    catch e =>
      setConnection (← view (·.connection.abort))
      report (.connected (.error (.command e)))

/-- Associates with the network that was found. One that needs a key is given the key first, and
its association is kept back until the chip has taken it. -/
def associate (b : Bss) : Act σ Unit := do
  setConnection (← view (·.connection.setPeer b.bssid b.capability b.security))
  let target ← view (·.connection.target)
  let block ← Params.association target.ssid b.channel b.security
  if b.security.needsKey then
    let key ← Params.masterKey target.ssid b.bssid target.passphrase
    issue .supplicantPmk .set key.bytes
  let secured := Params.addSecurity block b.security b.vendor b.rsn
  secured.1
  issue .associate .get secured.2.bytes

/-- A caller's scan. An attempt to connect has the scans to itself. -/
def startScan (params : Except DriverError Tlv.Block) : Act σ Unit := do
  ensureReady
  if (← view (·.connection.status)) = .connecting then throw .invalidState
  else
    let block ← params
    issue .scan .get block.bytes

def connect (ssid passphrase : Bytes) : Act σ Unit := do
  ensureReady
  let requested ← (← view (·.connection.request ssid passphrase))
  setConnection requested
  update (·.clearStaged)
  try sendConnectScan
  catch e =>
    setConnection (← view (·.connection.abort))
    throw e

def disconnect : Act σ Unit := do
  if (← view (·.connection.status)) = .connected then issue .deauthenticate .get []

/-- An access point with nothing to configure is started at once. -/
def startAp (settings : ApSettings) : Act σ Unit := do
  ensureReady
  let block ← Params.accessPoint settings
  if block.bytes = [] then issue .bssStart .get [] else issue .sysConfigure .set block.bytes

end SdioWlan.Session
