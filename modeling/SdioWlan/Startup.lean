import SdioWlan.Firmware
import SdioWlan.Session.Receive

namespace SdioWlan

inductive Call
  | init
  | shutdown
  | serviceInterrupt
  | scan (channels : Bytes) (maxTime : UInt16)
  | scanSsid (ssid : Bytes) (maxTime : UInt16)
  | connect (ssid passphrase : Bytes)
  | disconnect
  | startAp (settings : ApSettings)
  | stopAp
  | deauthClient (mac : Mac)
  | sendData (payload : Bytes) (role : Role)
  | leased (mac : Mac) (lease : Lease)
  deriving DecidableEq

namespace Session

variable {σ : Type} [Platform σ]

def powerUp : Act σ UInt32 := do
  let image ← (← view (·.image))
  onLink (Firmware.powerOn image (← view (·.config.firmwareBudgets)))

def init : Act σ Unit := do
  let base ←
    try powerUp
    catch e =>
      failBoot e
      throw e
  update fun d ↦ { d with base, boot := .start }
  pumpBootstrap

def leased (mac : Mac) (lease : Lease) : Act σ Unit := do
  if (← view (·.clients.find? mac)).isSome then report (.clientConnected mac lease)

def perform : Call → Act σ Unit
  | .init => init
  | .shutdown => issue .funcShutdown .get []
  | .serviceInterrupt => serviceInterrupt
  | .scan channels maxTime => startScan (Params.scanChannels channels maxTime)
  | .scanSsid ssid maxTime => startScan (Params.scanSsid ssid maxTime)
  | .connect ssid passphrase => connect ssid passphrase
  | .disconnect => disconnect
  | .startAp settings => startAp settings
  | .stopAp => do
    ensureReady
    issue .bssStop .get []
  | .deauthClient mac => do
    ensureReady
    issue .staDeauth .get mac.toBytes
  | .sendData payload role => sendData payload role
  | .leased mac lease => leased mac lease

def run (calls : List Call) (s : Session σ) : List (Except DriverError Unit) × Session σ :=
  match calls with
  | [] => ([], s)
  | c :: rest =>
    let r := perform c s
    let t := run rest r.2
    (r.1 :: t.1, t.2)

def ofConfig (config : Config) (firmware : FirmwareSource) (link : Link σ) : Session σ :=
  ⟨.new config firmware, link⟩

/-- Reads the settings and powers the chip up. The operating system hears only of the kind of
failure. -/
def start (text : Bytes) (images : FirmwareRegistry) (link : Link σ) :
    Except SystemError Unit × Session σ :=
  let r := init (ofConfig (.parse text) (.registry images) link)
  (r.1.mapError DriverError.system, r.2)

end Session

end SdioWlan
