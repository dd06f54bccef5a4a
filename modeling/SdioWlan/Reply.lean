import SdioWlan.Frame

namespace SdioWlan

inductive EventId
  | deauthenticated
  | wmmStatusChange
  | portRelease
  | uapStaDeauth
  | uapStaAssoc
  | uapBssStart
  | addba
  | delba
  | uapBssIdle
  | uapBssActive
  | uapRsnConnect
  | unknown (code : UInt16)
  deriving DecidableEq, Repr

def eventHeaderSize : Nat := 8

namespace EventId

def code : EventId → UInt16
  | deauthenticated => 0x0008
  | wmmStatusChange => 0x0017
  | portRelease => 0x002B
  | uapStaDeauth => 0x002C
  | uapStaAssoc => 0x002D
  | uapBssStart => 0x002E
  | addba => 0x0033
  | delba => 0x0034
  | uapBssIdle => 0x0043
  | uapBssActive => 0x0044
  | uapRsnConnect => 0x0051
  | unknown v => v

def known : List EventId :=
  [deauthenticated, wmmStatusChange, portRelease, uapStaDeauth, uapStaAssoc, uapBssStart, addba,
    delba, uapBssIdle, uapBssActive, uapRsnConnect]

def ofCode (v : UInt16) : EventId := (known.find? fun e ↦ e.code == v).getD (unknown v)

@[simp] theorem code_ofCode (v : UInt16) : (ofCode v).code = v := by
  unfold ofCode
  cases h : known.find? fun e ↦ e.code == v with
  | none => rfl
  | some c => simpa using List.find?_some h

def name : EventId → String
  | deauthenticated => "Deauthenticated"
  | wmmStatusChange => "WmmStatusChange"
  | portRelease => "PortRelease"
  | uapStaDeauth => "UapStaDeauth"
  | uapStaAssoc => "UapStaAssoc"
  | uapBssStart => "UapBssStart"
  | addba => "Addba"
  | delba => "Delba"
  | uapBssIdle => "UapBssIdle"
  | uapBssActive => "UapBssActive"
  | uapRsnConnect => "UapRsnConnect"
  | unknown v => s!"Unknown({v})"

end EventId

namespace Reply

def endPort? (body : Bytes) : Option UInt16 := body.u16? 43

def address? (body : Bytes) : Option Mac := Mac.at? body 2

def capability? (body : Bytes) : Option UInt16 := body.u16? 0

def client? (body : Bytes) : Option Mac := Mac.at? body 2

structure BlockAckRequest where
  result : UInt8
  peer : Mac
  token : UInt8
  params : UInt16
  timeout : UInt16
  start : UInt16
  deriving DecidableEq, Repr

def BlockAckRequest.size : Nat := 14

def blockAck? (body : Bytes) : Option BlockAckRequest := do
  guard (BlockAckRequest.size ≤ body.length)
  return {
    result := ← body[0]?
    peer := ← Mac.at? body 1
    token := ← body[7]?
    params := ← body.u16? 8
    timeout := ← body.u16? 10
    start := ← body.u16? 12 }

end Reply

end SdioWlan
