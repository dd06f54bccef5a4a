import SdioWlan.Link

namespace SdioWlan

def maxPort : Nat := 16

def controlPort : Nat := 0

def portAddress (base : UInt32) (port : Nat) : UInt32 := base + UInt32.ofNat port

abbrev PortSet := BitVec 16

namespace PortSet

def contains (s : PortSet) (port : Nat) : Bool := s.getLsbD port

def erase (s : PortSet) (port : Nat) : PortSet := s &&& ~~~(1#16 <<< port)

theorem contains_erase (s : PortSet) (p q : Nat) :
    (s.erase p).contains q = (s.contains q && decide (q ≠ p)) := by
  unfold contains erase
  by_cases hq : q < 16
  · simp only [BitVec.getLsbD_and, BitVec.getLsbD_not, hq, decide_true, Bool.true_and,
      BitVec.getLsbD_shiftLeft, BitVec.getLsbD_one]
    by_cases h : q < p
    · have : q ≠ p := by omega
      simp [h, this]
    · by_cases e : q = p
      · subst e
        simp
      · have : q - p ≠ 0 := by omega
        simp [h, e, this]
  · have h1 : s.getLsbD q = false := BitVec.getLsbD_of_ge s q (by omega)
    simp [h1]

end PortSet

namespace Register

def block : UInt32 := 0x00
def interruptMask : UInt32 := 0x02
def interruptStatus : UInt32 := 0x03
def readableLow : UInt32 := 0x04
def writableLow : UInt32 := 0x06
def writableHigh : UInt32 := 0x07
/-- Two bytes per port from here on say how much there is to read. -/
def readLength : UInt32 := 0x08
def cardEvent : UInt32 := 0x30
def chunkLengthLow : UInt32 := 0x40
def chunkLengthHigh : UInt32 := 0x41
def firmwareLow : UInt32 := 0x60
def firmwareHigh : UInt32 := 0x61
def controlPort0 : UInt32 := 0x78
def controlPort1 : UInt32 := 0x79
def controlPort2 : UInt32 := 0x7A

end Register

def uploadInterrupt : UInt8 := 0x01

def cardReady : UInt8 := 0x08

def chunkReady : UInt8 := 0x01

def firmwareReady : UInt16 := 0xFEDC

def readControlPort {σ : Type} [Platform σ] : Link.Transfer σ UInt32 := do
  let a ← Link.readByte Register.controlPort0
  let b ← Link.readByte Register.controlPort1
  let c ← Link.readByte Register.controlPort2
  return UInt32.ofNat (leNat [a, b, c])

structure Snapshot where
  bytes : Bytes
  deriving DecidableEq

namespace Snapshot

def size : Nat := 64

/-- Registers beyond the block read as zero. -/
def byte (s : Snapshot) (addr : Nat) : UInt8 := s.bytes.getD addr 0

def word (s : Snapshot) (lo : Nat) : UInt16 := ofLe16 (s.byte lo) (s.byte (lo + 1))

def interrupts (s : Snapshot) : UInt8 := s.byte Register.interruptStatus.toNat

def readable (s : Snapshot) : UInt16 := s.word Register.readableLow.toNat

def writable (s : Snapshot) : UInt16 := s.word Register.writableLow.toNat

def frameLength (s : Snapshot) (port : Nat) : UInt16 :=
  s.word (Register.readLength.toNat + 2 * port)

variable {σ : Type} [Platform σ]

def read : Link.Transfer σ Snapshot := do
  return ⟨← Link.readBlock Register.block .incrementing size⟩

/-- Writes the status back without the interrupt for frames, which acknowledges it. -/
def clearUpload (s : Snapshot) : Link.Transfer σ Unit :=
  Link.writeByte Register.interruptStatus (s.interrupts &&& ~~~uploadInterrupt)

end Snapshot

end SdioWlan
