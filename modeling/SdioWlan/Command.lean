import SdioWlan.Dot11
import SdioWlan.Error
import SdioWlan.Frame
import SdioWlan.Reply

namespace SdioWlan

inductive CommandId
  | getHwSpec
  | scan
  | associate
  | deauthenticate
  | macControl
  | macAddr
  | funcInit
  | funcShutdown
  | sysConfigure
  | bssStart
  | bssStop
  | staDeauth
  | supplicantPmk
  | addbaRsp
  | unknown (code : UInt16)
  deriving DecidableEq, Repr

namespace CommandId

def code : CommandId → UInt16
  | getHwSpec => 0x0003
  | scan => 0x0006
  | associate => 0x0012
  | deauthenticate => 0x0024
  | macControl => 0x0028
  | macAddr => 0x004D
  | funcInit => 0x00A9
  | funcShutdown => 0x00AA
  | sysConfigure => 0x00B0
  | bssStart => 0x00B1
  | bssStop => 0x00B2
  | staDeauth => 0x00B5
  | supplicantPmk => 0x00C4
  | addbaRsp => 0x00CF
  | unknown v => v

def known : List CommandId :=
  [getHwSpec, scan, associate, deauthenticate, macControl, macAddr, funcInit, funcShutdown,
    sysConfigure, bssStart, bssStop, staDeauth, supplicantPmk, addbaRsp]

def ofCode (v : UInt16) : CommandId := (known.find? fun c ↦ c.code == v).getD (unknown v)

@[simp] theorem code_ofCode (v : UInt16) : (ofCode v).code = v := by
  unfold ofCode
  cases h : known.find? fun c ↦ c.code == v with
  | none => rfl
  | some c => simpa using List.find?_some h

def role : CommandId → Role
  | sysConfigure | bssStart | bssStop | staDeauth => .uap
  | _ => .sta

def name : CommandId → String
  | getHwSpec => "GetHwSpec"
  | scan => "Scan"
  | associate => "Associate"
  | deauthenticate => "Deauthenticate"
  | macControl => "MacControl"
  | macAddr => "MacAddr"
  | funcInit => "FuncInit"
  | funcShutdown => "FuncShutdown"
  | sysConfigure => "SysConfigure"
  | bssStart => "BssStart"
  | bssStop => "BssStop"
  | staDeauth => "StaDeauth"
  | supplicantPmk => "SupplicantPmk"
  | addbaRsp => "AddbaRsp"
  | unknown v => s!"Unknown({v})"

end CommandId

inductive CommandAction
  | get
  | set
  deriving DecidableEq, Repr

def CommandAction.code : CommandAction → UInt16
  | get => 0
  | set => 1

structure CommandHeader where
  frameLength : UInt16
  kind : UInt16
  command : UInt16
  size : UInt16
  sequence : UInt16
  bss : UInt8
  result : UInt8
  deriving DecidableEq, Repr

def responseBit : UInt16 := 0x8000

namespace CommandHeader

def length : Nat := 12

def toBytes (h : CommandHeader) : Bytes :=
  le16 h.frameLength ++ le16 h.kind ++ le16 h.command ++ le16 h.size ++ le16 h.sequence ++
    [h.bss, h.result]

def parse? : Bytes → Option CommandHeader
  | l₀ :: l₁ :: k₀ :: k₁ :: c₀ :: c₁ :: s₀ :: s₁ :: q₀ :: q₁ :: bss :: result :: _ =>
    some
      { frameLength := ofLe16 l₀ l₁
        kind := ofLe16 k₀ k₁
        command := ofLe16 c₀ c₁
        size := ofLe16 s₀ s₁
        sequence := ofLe16 q₀ q₁
        bss := bss
        result := result }
  | _ => none

def id (h : CommandHeader) : CommandId := .ofCode (h.command &&& ~~~responseBit)

def isResponse (h : CommandHeader) : Bool := h.command &&& responseBit != 0

@[simp] theorem length_toBytes (h : CommandHeader) : h.toBytes.length = length := by
  simp [toBytes, length]

end CommandHeader

def maxBody : Nat := maxFrame - CommandHeader.length

structure Command where
  id : CommandId
  role : Role
  body : Bytes
  body_le : body.length ≤ maxBody := by decide
  deriving DecidableEq

namespace Command

def ofBody (id : CommandId) (body : Bytes) : Except DriverError Command :=
  if h : body.length ≤ maxBody then .ok ⟨id, id.role, body, h⟩ else .error .tooLarge

/-- A command whose body has exactly `n` bytes, zeros where `content` does not reach. -/
def ofSize (id : CommandId) (n : Nat) (content : Bytes) : Except DriverError Command :=
  if n ≤ maxBody then ofBody id (content.fit n) else .error .tooLarge

def frameLength (c : Command) : Nat := CommandHeader.length + c.body.length

/-- One command is under way at a time, so the sequence number is never needed. -/
def header (c : Command) : CommandHeader :=
  { frameLength := UInt16.ofNat c.frameLength
    kind := FrameKind.command.code.toUInt16
    command := c.id.code
    size := UInt16.ofNat (c.frameLength - frameHeaderSize)
    sequence := 0
    bss := c.role.code <<< 4
    result := 0 }

def frame (c : Command) : Bytes := c.header.toBytes ++ c.body

@[simp] theorem length_frame (c : Command) : c.frame.length = c.frameLength := by
  simp [frame, frameLength]

def writeTo (c : Command) (buf : Bytes) : Except DriverError (Nat × Bytes) :=
  if c.frameLength ≤ buf.length then .ok (c.frameLength, c.frame ++ buf.drop c.frameLength)
  else .error .tooLarge

def summary (c : Command) : String :=
  "HostCmd \x7b id: " ++ c.id.name ++ ", role: " ++ c.role.name ++ ", param_len: " ++
    toString c.body.length ++ " \x7d"

end Command

structure Peer where
  bssid : Mac
  capability : UInt16
  deriving DecidableEq, Repr

inductive Gate
  | sendNow
  | stage
  deriving DecidableEq, Repr

/-- Only the association with a network that needs a key waits for it. -/
def gate (id : CommandId) (security : Security) : Gate :=
  if id = .associate ∧ security.needsKey then .stage else .sendNow

namespace MacControl

def receive : UInt16 := 0x0001
def transmit : UInt16 := 0x0002
def ethernet : UInt16 := 0x0010

def default : UInt16 := receive ||| transmit ||| ethernet

end MacControl

namespace Command

def hwSpecSize : Nat := 47

def anyBssMode : UInt8 := 3

def listenInterval : UInt16 := 10

def beaconPeriod : UInt16 := 0x40

def client (payload : Bytes) : Except DriverError Mac :=
  match Mac.ofBytes? payload with
  | some m => .ok m
  | none => .error .invalidParam

def macControlBits (payload : Bytes) : Except DriverError UInt16 :=
  match payload with
  | [] => .ok MacControl.default
  | lo :: hi :: _ => .ok (ofLe16 lo hi)
  | [_] => .error .invalidParam

def blockAckBody (r : Reply.BlockAckRequest) : Bytes :=
  [0] ++ r.peer.toBytes ++ [r.token] ++ le16 0 ++ le16 r.params ++ le16 r.timeout ++ le16 r.start

/-- The body of a command. What `payload` means depends on the command: a parameter block, bits,
an address, or the request that is answered. -/
def bodyOf (id : CommandId) (action : CommandAction) (payload : Bytes) (peer : Peer) :
    Except DriverError Bytes :=
  match id with
  | .getHwSpec => .ok (List.replicate hwSpecSize 0)
  | .scan => .ok ([anyBssMode] ++ Mac.zero.toBytes ++ payload)
  | .associate =>
    .ok (peer.bssid.toBytes ++ le16 peer.capability ++ le16 listenInterval ++ le16 beaconPeriod ++
      [0] ++ payload)
  | .deauthenticate => .ok (peer.bssid.toBytes ++ le16 Dot11.Reason.stationLeaving)
  | .macControl => do
    let bits ← macControlBits payload
    return le16 bits ++ le16 0
  | .macAddr =>
    match action with
    | .get => .ok (le16 action.code ++ Mac.zero.toBytes)
    | .set => do
      let m ← client payload
      return le16 action.code ++ m.toBytes
  | .funcInit | .funcShutdown | .bssStart | .bssStop => .ok []
  | .sysConfigure => .ok (le16 action.code ++ payload)
  | .staDeauth => do
    let m ← client payload
    return m.toBytes ++ le16 Dot11.Reason.deauthLeaving
  | .supplicantPmk => .ok (le16 action.code ++ le16 0 ++ payload)
  | .addbaRsp =>
    match Reply.blockAck? payload with
    | some r => .ok (blockAckBody r)
    | none => .error .malformedFrame
  | .unknown _ => .error .invalidParam

def encode (id : CommandId) (action : CommandAction) (payload : Bytes) (peer : Peer) :
    Except DriverError Command := do
  let body ← bodyOf id action payload peer
  ofBody id body

end Command

end SdioWlan
