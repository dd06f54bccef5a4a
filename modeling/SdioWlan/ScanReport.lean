import SdioWlan.Dot11
import SdioWlan.Frame
import SdioWlan.Tlv

namespace SdioWlan

open Dot11 (ElementId)

/-- What one more element says about the protection of a network that has the privacy bit. -/
def Security.refine (s : Security) (e : Tlv) : Security :=
  match ElementId.ofCode? e.type.toUInt8 with
  | some .rsn => .wpa2
  | some .vendorSpecific => if s ≠ .wpa2 ∧ Dot11.isWpaElement e.payload then .wpa else s
  | _ => s

def Security.infer (capability : UInt16) (elements : List Tlv) : Security :=
  if capability &&& Dot11.Capability.privacy = 0 then .unprotected
  else elements.foldl refine .wep

def Security.inferFrom (capability : UInt16) (beacon : Bytes) : Except DriverError Security := do
  return infer capability (← Tlv.parse .beacon beacon)

structure Bss where
  bssid : Mac
  rssi : UInt8
  timestamp : UInt64
  beaconInterval : UInt16
  capability : UInt16
  channel : UInt8 := 0
  ssid : Bytes := []
  rates : Option Bytes := none
  rsn : Option Bytes := none
  vendor : List Bytes := []
  security : Security := .unprotected
  deriving DecidableEq, Repr

namespace Bss

def fixedSize : Nat := Mac.size + 1 + 8 + 2 + 2

def maxVendor : Nat := 8

def fixed? (raw : Bytes) : Option Bss := do
  return {
    bssid := ← Mac.at? raw 0
    rssi := ← raw[6]?
    timestamp := UInt64.ofNat (leNat (← raw.slice? 7 8))
    beaconInterval := ← raw.u16? 15
    capability := ← raw.u16? 17 }

/-- Takes over what an element says. The last one of its kind counts, but of vendor elements the
first ones are kept. -/
def absorb (b : Bss) (e : Tlv) : Bss :=
  match ElementId.ofCode? e.type.toUInt8 with
  | some .ssid => { b with ssid := e.payload.take Dot11.maxSsid }
  | some .supportedRates => { b with rates := some e.payload }
  | some .dsParams => { b with channel := e.payload.headD b.channel }
  | some .rsn => { b with rsn := some e.payload }
  | some .vendorSpecific =>
    if b.vendor.length < maxVendor then { b with vendor := b.vendor ++ [e.payload] } else b
  | some .cfParams | none => b

def parse (raw : Bytes) : Except DriverError Bss :=
  match fixed? raw with
  | none => .error .malformedFrame
  | some b => do
    let elements ← Tlv.parse .beacon (raw.drop fixedSize)
    return { elements.foldl absorb b with security := .infer b.capability elements }

def isIbss (b : Bss) : Bool := b.capability &&& Dot11.Capability.ibss != 0

end Bss

structure ScanReport where
  /-- The length that the chip names; nothing depends on it. -/
  size : UInt16
  count : UInt8
  sets : Bytes
  deriving DecidableEq, Repr

namespace ScanReport

def parse : Bytes → Except DriverError ScanReport
  | s₀ :: s₁ :: n :: sets => .ok ⟨ofLe16 s₀ s₁, n, sets⟩
  | _ => .error .malformedFrame

def split (sets : Bytes) : Except DriverError (Bss × Bytes) :=
  match sets with
  | n₀ :: n₁ :: rest =>
    let n := (ofLe16 n₀ n₁).toNat
    if n ≤ rest.length then do
      let b ← Bss.parse (rest.take n)
      return (b, rest.drop n)
    else .error .malformedFrame
  | _ => .error .malformedFrame

/-- Up to `n` networks, and what is wrong with the next one if they are fewer. -/
def walk : Nat → Bytes → List Bss × Option DriverError
  | 0, _ => ([], none)
  | n + 1, sets =>
    match split sets with
    | .error e => ([], some e)
    | .ok (b, rest) =>
      let r := walk n rest
      (b :: r.1, r.2)

def networks (r : ScanReport) : List Bss := (walk r.count.toNat r.sets).1

/-- What is wrong with the network after the last one in `networks`. -/
def fault? (r : ScanReport) : Option DriverError := (walk r.count.toNat r.sets).2

end ScanReport

end SdioWlan
