import SdioWlan.Register

namespace SdioWlan

/-- A data port, one of 1 to 15. -/
structure DataPort where
  index : Nat
  one_le : 1 ≤ index
  lt_maxPort : index < maxPort
  deriving DecidableEq

namespace DataPort

def first : DataPort := ⟨1, by decide, by decide⟩

/-- The port after this one. After the last below `wrap` it starts again. -/
def next (p : DataPort) (wrap : Nat) : DataPort :=
  if h : p.index + 1 < wrap ∧ p.index + 1 < maxPort then ⟨p.index + 1, by omega, h.2⟩ else first

theorem index_next_of_lt {p : DataPort} {wrap : Nat} (hp : p.index < wrap) (hw : wrap ≤ maxPort) :
    (p.next wrap).index = p.index % (wrap - 1) + 1 := by
  have h₁ := p.one_le
  unfold next
  split
  · rename_i h
    rw [Nat.mod_eq_of_lt (by omega)]
  · have he : p.index = wrap - 1 := by omega
    rw [he, Nat.mod_self]
    rfl

end DataPort

structure PortAllocator where
  readable : PortSet := 0#16
  writable : PortSet := 0#16
  nextRead : DataPort := .first
  nextWrite : DataPort := .first
  /-- The upper end of the data ports, as the chip reported it; zero until then. -/
  endPort : UInt16 := 0
  deriving DecidableEq

namespace PortAllocator

def refresh (a : PortAllocator) (readable writable : UInt16) : PortAllocator :=
  { a with readable := readable.toBitVec, writable := writable.toBitVec }

def setWritable (a : PortAllocator) (writable : UInt16) : PortAllocator :=
  { a with writable := writable.toBitVec }

/-- Where writing starts again with port 1. A reported end that makes no sense is ignored. -/
def writeWrap (a : PortAllocator) : Nat :=
  if 2 ≤ a.endPort.toNat ∧ a.endPort.toNat ≤ maxPort then a.endPort.toNat else maxPort

theorem writeWrap_mem (a : PortAllocator) : 2 ≤ a.writeWrap ∧ a.writeWrap ≤ maxPort := by
  unfold writeWrap
  split
  · assumption
  · decide

def nextReadable? (a : PortAllocator) : Option (Nat × PortAllocator) :=
  if a.readable.contains controlPort then
    some (controlPort, { a with readable := a.readable.erase controlPort })
  else if a.readable.contains a.nextRead.index then
    some (a.nextRead.index,
      { a with readable := a.readable.erase a.nextRead.index, nextRead := a.nextRead.next maxPort })
  else none

theorem nextReadable?_cases {a b : PortAllocator} {port : Nat}
    (h : a.nextReadable? = some (port, b)) :
    port = controlPort ∧ b = { a with readable := a.readable.erase controlPort } ∨
      port = a.nextRead.index ∧ b = { a with
        readable := a.readable.erase a.nextRead.index, nextRead := a.nextRead.next maxPort } := by
  unfold nextReadable? at h
  split at h
  · cases h
    exact .inl ⟨rfl, rfl⟩
  split at h
  · cases h
    exact .inr ⟨rfl, rfl⟩
  · cases h

def nextWritable? (a : PortAllocator) : Option (Nat × PortAllocator) :=
  if a.writable.contains a.nextWrite.index then
    some (a.nextWrite.index,
      { a with
        writable := a.writable.erase a.nextWrite.index
        nextWrite := a.nextWrite.next a.writeWrap })
  else none

def drain (a : PortAllocator) : List Nat × PortAllocator :=
  go maxPort a
where
  go : Nat → PortAllocator → List Nat × PortAllocator
    | 0, a => ([], a)
    | n + 1, a =>
      match a.nextReadable? with
      | none => ([], a)
      | some (p, a) => let r := go n a; (p :: r.1, r.2)

variable {σ : Type} [Platform σ]

def tryAcquire : ExceptT DriverError (StateM (PortAllocator × Link σ)) (Option Nat) :=
  fun s ↦
    match Link.read16 Register.writableLow Register.writableHigh s.2 with
    | (.error _, l) => (.error .sendData, (s.1, l))
    | (.ok w, l) =>
      let a := s.1.setWritable w
      match a.nextWritable? with
      | none => (.ok none, (a, l))
      | some (p, a) => (.ok (some p), (a, l))

def acquire (b : Budget) : ExceptT DriverError (StateM (PortAllocator × Link σ)) Nat :=
  b.poll .writePort tryAcquire

end PortAllocator

end SdioWlan
