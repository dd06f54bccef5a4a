import SdioWlan.Frame

namespace SdioWlan

structure DeviceStats where
  rxPackets : UInt32 := 0
  txPackets : UInt32 := 0
  rxBytes : UInt64 := 0
  txBytes : UInt64 := 0
  rxErrors : UInt32 := 0
  txErrors : UInt32 := 0
  rxDropped : UInt32 := 0
  txDropped : UInt32 := 0
  forwarded : UInt32 := 0
  deriving DecidableEq, Repr

structure NetDevice where
  role : Role
  mac : Mac := .zero
  carrier : Bool := false
  stats : DeviceStats := {}
  deriving DecidableEq, Repr

namespace NetDevice

def setMac (d : NetDevice) (mac : Mac) : NetDevice := { d with mac }

def carrierOn (d : NetDevice) : NetDevice := { d with carrier := true }

def carrierOff (d : NetDevice) : NetDevice := { d with carrier := false }

def countRx (d : NetDevice) (n : Nat) : NetDevice :=
  { d with stats := { d.stats with
      rxPackets := d.stats.rxPackets + 1
      rxBytes := d.stats.rxBytes + UInt64.ofNat n } }

def countTx (d : NetDevice) (n : Nat) : NetDevice :=
  { d with stats := { d.stats with
      txPackets := d.stats.txPackets + 1
      txBytes := d.stats.txBytes + UInt64.ofNat n } }

def countTxError (d : NetDevice) : NetDevice :=
  { d with stats := { d.stats with txErrors := d.stats.txErrors + 1 } }

def countRxDropped (d : NetDevice) : NetDevice :=
  { d with stats := { d.stats with rxDropped := d.stats.rxDropped + 1 } }

def countTxDropped (d : NetDevice) : NetDevice :=
  { d with stats := { d.stats with txDropped := d.stats.txDropped + 1 } }

def countForwarded (d : NetDevice) : NetDevice :=
  { d with stats := { d.stats with forwarded := d.stats.forwarded + 1 } }

end NetDevice

structure ClientTable where
  slots : List (Option Mac)
  deriving DecidableEq, Repr

namespace ClientTable

def defaultCapacity : Nat := 2

def empty (capacity : Nat) : ClientTable := ⟨List.replicate capacity none⟩

def find? (t : ClientTable) (mac : Mac) : Option Nat := t.slots.findIdx? (· == some mac)

/-- The slot of a client, which is given one if it has none, or nothing if all are taken. -/
def admit? (t : ClientTable) (mac : Mac) : Option (Nat × ClientTable) :=
  match t.find? mac with
  | some i => some (i, t)
  | none =>
    match t.slots.findIdx? (·.isNone) with
    | some i => some (i, ⟨t.slots.set i (some mac)⟩)
    | none => none

def evict? (t : ClientTable) (mac : Mac) : Option (Nat × ClientTable) :=
  (t.find? mac).map fun i ↦ (i, ⟨t.slots.set i none⟩)

def toList (t : ClientTable) : List (Nat × Mac) :=
  t.slots.zipIdx.filterMap fun s ↦ s.1.map fun mac ↦ (s.2, mac)

def size (t : ClientTable) : Nat := t.slots.countP (·.isSome)

def isEmpty (t : ClientTable) : Bool := t.size == 0

def clear (t : ClientTable) : ClientTable := empty t.slots.length

end ClientTable

end SdioWlan
