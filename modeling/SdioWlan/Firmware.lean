import SdioWlan.Config
import SdioWlan.Register

namespace SdioWlan

structure FirmwareRegistry where
  images : List (String × Bytes) := []
  deriving DecidableEq, Repr

namespace FirmwareRegistry

def capacity : Nat := 4

def insert? (r : FirmwareRegistry) (name : String) (image : Bytes) : Option FirmwareRegistry :=
  if r.images.any (·.1 == name) then
    some ⟨r.images.map fun e ↦ if e.1 = name then (name, image) else e⟩
  else if r.images.length < capacity then some ⟨r.images ++ [(name, image)]⟩
  else none

def get? (r : FirmwareRegistry) (name : String) : Option Bytes := r.images.lookup name

def find (r : FirmwareRegistry) (name : String) : Except DriverError Bytes :=
  match r.get? name with
  | none => .error (.firmware .imageMissing)
  | some [] => .error (.firmware .emptyImage)
  | some image => .ok image

end FirmwareRegistry

structure ChunkLength where
  size : UInt16
  pos : 0 < size.toNat

namespace Firmware

variable {σ : Type} [Platform σ]

def isChunkReady : Link.Work σ Bool := do
  let card ← ExceptT.adapt .transfer (Link.readByte Register.cardEvent)
  return card &&& cardReady != 0 && card &&& chunkReady != 0

/-- The length that the chip asks for. Zero says that it is not known yet. -/
def requested? : Link.Work σ (Option ChunkLength) := do
  let n ← ExceptT.adapt .transfer (Link.read16 Register.chunkLengthLow Register.chunkLengthHigh)
  return if h : 0 < n.toNat then some ⟨n, h⟩ else none

/-- The length of a chunk. For the first one the chip does not say that it is ready. -/
def nextLength? : Bool → Link.Work σ (Option ChunkLength)
  | true => requested?
  | false => do
    if ← isChunkReady then requested? else return none

def sendChunks (base : UInt32) (b : Budget) (first : Bool) (image : Bytes) : Link.Work σ Unit :=
  if _h : image = [] then pure ()
  else do
    let n ← b.poll .chunkReady (nextLength? first)
    if n.size &&& 1 ≠ 0 then throw (.firmware (.oddChunk n.size))
    else
      ExceptT.adapt .transfer (Link.writeBlock base .fifo (image.take n.size.toNat))
      sendChunks base b false (image.drop n.size.toNat)
termination_by image.length
decreasing_by
  have := n.pos
  have := List.length_pos_iff.mpr _h
  simp only [List.length_drop]
  omega

def started? : Link.Work σ (Option Unit) := do
  let mark ← ExceptT.adapt .transfer (Link.read16 Register.firmwareLow Register.firmwareHigh)
  return if mark = firmwareReady then some () else none

def download (base : UInt32) (image : Bytes) (b : FirmwareBudgets) : Link.Work σ Unit :=
  if image = [] then throw (.firmware .emptyImage)
  else do
    sendChunks base b.chunkReady true image
    b.firmwareReady.poll .firmwareReady started?

/-- Resets the chip, loads its firmware and lets it raise interrupts. The result is the base
address of its ports. -/
def powerOn (image : Bytes) (b : FirmwareBudgets) : Link.Work σ UInt32 := do
  ExceptT.adapt .transfer Link.reset
  let base ← ExceptT.adapt (fun _ ↦ .unknownControlPort) readControlPort
  download base image b
  ExceptT.adapt (fun _ ↦ .interruptMask) (Link.writeByte Register.interruptMask uploadInterrupt)
  return base

end Firmware

end SdioWlan
