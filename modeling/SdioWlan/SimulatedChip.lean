import SdioWlan.Register

namespace SdioWlan

inductive AccessKind
  | readByte
  | writeByte
  | readBlock
  | writeBlock
  | reset
  deriving DecidableEq, Repr

/-- Makes accesses of a kind fail, all of them or those to one address, after some have passed. -/
structure Fault where
  kind : AccessKind
  address : Option UInt32
  errno : Errno
  skip : Nat := 0
  times : Nat := 1
  deriving DecidableEq, Repr

namespace Fault

def concerns (f : Fault) (kind : AccessKind) (address : UInt32) : Bool :=
  f.kind == kind && 0 < f.times && f.address.all (· == address)

/-- What faults do to an access. Only the first that concerns it has a say. -/
def strike (kind : AccessKind) (address : UInt32) : List Fault → Option Errno × List Fault
  | [] => (none, [])
  | f :: fs =>
    if f.concerns kind address then
      if 0 < f.skip then (none, { f with skip := f.skip - 1 } :: fs)
      else (some f.errno, { f with times := f.times - 1 } :: fs)
    else
      let r := strike kind address fs
      (r.1, f :: r.2)

end Fault

def takeEntry {κ β : Type} [DecidableEq κ] (key : κ) : List (κ × β) → Option (β × List (κ × β))
  | [] => none
  | e :: es =>
    if e.1 = key then some (e.2, es) else (takeEntry key es).map fun r ↦ (r.1, e :: r.2)

structure SimulatedChip where
  registers : List UInt8
  base : UInt32
  /-- Bytes that a register shows once, in order, before it shows its own again. -/
  shown : List (UInt32 × UInt8) := []
  faults : List Fault := []
  waiting : List (Nat × Bytes) := []
  leases : List (Mac × Lease) := []
  hasReset : Bool := true

namespace SimulatedChip

def registerCount : Nat := 256

def initialRegisters : List (UInt32 × UInt8) :=
  [(Register.writableLow, 0xFE), (Register.writableHigh, 0xFF),
    (Register.cardEvent, cardReady ||| chunkReady), (Register.chunkLengthHigh, 0x01),
    (Register.firmwareLow, 0xDC), (Register.firmwareHigh, 0xFE), (Register.controlPort2, 0x01)]

def new : SimulatedChip :=
  { registers := initialRegisters.foldl (fun r e ↦ r.set e.1.toNat e.2)
      (List.replicate registerCount 0)
    base := 0x10000 }

def register (c : SimulatedChip) (address : Nat) : UInt8 := c.registers.getD address 0

def setRegister (c : SimulatedChip) (address : Nat) (value : UInt8) : SimulatedChip :=
  { c with registers := c.registers.set address value }

def setRegisters (c : SimulatedChip) (address : Nat) (values : Bytes) : SimulatedChip :=
  (values.zipIdx address).foldl (fun c v ↦ c.setRegister v.2 v.1) c

def setBase (c : SimulatedChip) (base : UInt32) : SimulatedChip :=
  { c.setRegisters Register.controlPort0.toNat (leBytes 3 base.toNat) with base }

def showBytes (c : SimulatedChip) (address : UInt32) (values : Bytes) : SimulatedChip :=
  { c with shown := c.shown ++ values.map fun v ↦ (address, v) }

def addFaults (c : SimulatedChip) (faults : List Fault) : SimulatedChip :=
  { c with faults := c.faults ++ faults }

def clearFaults (c : SimulatedChip) : SimulatedChip := { c with faults := [] }

def queueFrame (c : SimulatedChip) (port : Nat) (frame : Bytes) : SimulatedChip :=
  { c with waiting := c.waiting ++ [(port, frame)] }

def addLease (c : SimulatedChip) (mac : Mac) (lease : Lease) : SimulatedChip :=
  { c with leases := c.leases ++ [(mac, lease)] }

/-- Frames to be announced by one interrupt, and what the registers say of them if it is not the
truth. -/
structure Announcement where
  frames : List (Nat × Bytes)
  lengths : List (Nat × Nat) := []
  readable : Option UInt16 := none
  interrupts : UInt8 := 1
  writable : Option UInt16 := none

def portBits (frames : List (Nat × Bytes)) : UInt16 :=
  frames.foldl (fun bits f ↦ bits ||| (1 <<< UInt16.ofNat f.1)) 0

def announce (c : SimulatedChip) (a : Announcement) : SimulatedChip :=
  let lengths := Register.readLength.toNat
  let c := { c with waiting := a.frames }
  let c := c.setRegisters lengths (List.replicate (2 * maxPort) 0)
  let said := a.frames.map (fun f ↦ (f.1, f.2.length)) ++ a.lengths
  let c := said.foldl (fun c e ↦ c.setRegisters (lengths + 2 * e.1) (leBytes 2 e.2)) c
  let c := c.setRegister Register.interruptStatus.toNat a.interrupts
  let readable := a.readable.getD (portBits a.frames)
  let c := c.setRegisters Register.readableLow.toNat (le16 readable)
  match a.writable with
  | none => c
  | some writable => c.setRegisters Register.writableLow.toNat (le16 writable)

def attempt {α : Type} (c : SimulatedChip) (kind : AccessKind) (address : UInt32)
    (op : SimulatedChip → Except Errno α × SimulatedChip) : Except Errno α × SimulatedChip :=
  let r := Fault.strike kind address c.faults
  let c := { c with faults := r.2 }
  match r.1 with
  | some e => (.error e, c)
  | none => op c

def readByte (address : UInt32) (c : SimulatedChip) : Except Errno UInt8 × SimulatedChip :=
  c.attempt .readByte address fun c ↦
    match takeEntry address c.shown with
    | some (v, shown) => (.ok v, { c with shown })
    | none => (.ok (c.register address.toNat), c)

def readFrame (port : Nat) (c : SimulatedChip) : Except Errno Bytes × SimulatedChip :=
  match takeEntry port c.waiting with
  | some (frame, waiting) => (.ok frame, { c with waiting })
  | none => (.error .noData, c)

def readBlock (address : UInt32) (mode : Addressing) (size : Nat) (c : SimulatedChip) :
    Except Errno Bytes × SimulatedChip :=
  c.attempt .readBlock address fun c ↦
    match mode with
    | .incrementing => (.ok ((List.range size).map fun i ↦ c.register (address.toNat + i)), c)
    | .fifo => readFrame (address - c.base).toNat c

def reset (c : SimulatedChip) : Option (Except Errno Unit × SimulatedChip) :=
  if c.hasReset then some (c.attempt .reset 0 fun c ↦ (.ok (), c)) else none

def eraseLease (mac : Mac) (c : SimulatedChip) : Option Lease × SimulatedChip :=
  match takeEntry mac c.leases with
  | some (lease, leases) => (some lease, { c with leases })
  | none => (none, c)

instance : Platform SimulatedChip where
  readByte := readByte
  writeByte address _ c := c.attempt .writeByte address fun c ↦ (.ok (), c)
  readBlock := readBlock
  writeBlock address _ _ c := c.attempt .writeBlock address fun c ↦ (.ok (), c)
  reset := reset
  eraseLease := eraseLease

end SimulatedChip

end SdioWlan
