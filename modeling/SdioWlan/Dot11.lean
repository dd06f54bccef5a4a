import SdioWlan.Bytes

namespace SdioWlan

inductive Security
  | unprotected
  | wep
  | wpa
  | wpa2
  deriving DecidableEq, Repr

/-- These networks need a pairwise master key before the association. -/
def Security.needsKey : Security → Bool
  | wpa | wpa2 => true
  | unprotected | wep => false

def maxPassphrase : Nat := 64

inductive AssocRefusal
  | timeout
  | authRefused
  | authUnhandled
  | internal
  deriving DecidableEq, Repr

namespace AssocRefusal

def ofCapability? (cap : UInt16) : Option AssocRefusal :=
  if cap = 0xFFFC then some timeout
  else if cap = 0xFFFD then some authRefused
  else if cap = 0xFFFE then some authUnhandled
  else if cap = 0xFFFF then some internal
  else none

def message : AssocRefusal → String
  | timeout => "Timeout"
  | authRefused => "AuthRefused"
  | authUnhandled => "AuthUnhandled"
  | internal => "Internal"

end AssocRefusal

namespace Dot11

/-- The elements of a beacon that are looked at; all others are skipped. -/
inductive ElementId
  | ssid
  | supportedRates
  | dsParams
  | cfParams
  | rsn
  | vendorSpecific
  deriving DecidableEq, Repr

namespace ElementId

def code : ElementId → UInt8
  | ssid => 0
  | supportedRates => 1
  | dsParams => 3
  | cfParams => 4
  | rsn => 48
  | vendorSpecific => 221

def ofCode? (v : UInt8) : Option ElementId :=
  if v = 0 then some ssid
  else if v = 1 then some supportedRates
  else if v = 3 then some dsParams
  else if v = 4 then some cfParams
  else if v = 48 then some rsn
  else if v = 221 then some vendorSpecific
  else none

@[simp] theorem ofCode?_code (e : ElementId) : ofCode? e.code = some e := by cases e <;> rfl

end ElementId

namespace Capability

def ess : UInt16 := 0x0001
def ibss : UInt16 := 0x0002
def privacy : UInt16 := 0x0010

end Capability

namespace Reason

def deauthLeaving : UInt16 := 3

def stationLeaving : UInt16 := 36

end Reason

/-- A vendor element that carries WPA parameters starts with the vendor's identifier and type 1. -/
def isWpaElement (payload : Bytes) : Bool := payload.take 4 == [0x00, 0x50, 0xF2, 0x01]

def maxSsid : Nat := 32

def maxChannel : Nat := 14

def frequency? (channel : UInt8) : Option Nat :=
  if 1 ≤ channel ∧ channel ≤ 13 then some (2407 + 5 * channel.toNat)
  else if channel = 14 then some 2484
  else none

/-- A supported rate in units of 500 kbit/s; the high bit only marks it as a basic rate. -/
def halfMegabits (rate : UInt8) : UInt8 := rate &&& 0x7F

def megabits (rate : UInt8) : UInt8 := halfMegabits rate >>> 1

end Dot11

end SdioWlan
