import SdioWlan.Connection
import SdioWlan.Interface
import SdioWlan.PortAllocator
import SdioWlan.Proofs.Checked.Basic

namespace SdioWlan.Checked

def dataPort (cursor : UInt8) : Except Fault DataPort :=
  if h : 1 ≤ cursor.toNat ∧ cursor.toNat < maxPort then .ok ⟨cursor.toNat, h.1, h.2⟩
  else .error .outOfBounds

def advance (cursor wrap : UInt8) : Except Fault DataPort := do
  let next ← add8 cursor 1
  dataPort (if wrap ≤ next then 1 else next)

def writeWrap (endPort : UInt16) : Except Fault UInt8 :=
  if 2 ≤ endPort ∧ endPort ≤ 16 then narrow8 endPort.toNat else return 16

def takePort? (s : UInt16) (cursor : UInt8) : Except Fault (Option UInt16) := do
  let bit ← shl16 1 cursor
  if s &&& bit = 0 then return none else return some (s &&& ~~~bit)

def nextReadable? (a : PortAllocator) : Except Fault (Option (UInt8 × PortAllocator)) := do
  let s := UInt16.ofBitVec a.readable
  if s &&& 1 ≠ 0 then return some (0, { a with readable := (s &&& ~~~1).toBitVec })
  else
    let cursor := UInt8.ofNat a.nextRead.index
    match ← takePort? s cursor with
    | none => return none
    | some s =>
      return some (cursor, { a with readable := s.toBitVec, nextRead := ← advance cursor 16 })

def nextWritable? (a : PortAllocator) : Except Fault (Option (UInt8 × PortAllocator)) := do
  let cursor := UInt8.ofNat a.nextWrite.index
  match ← takePort? (UInt16.ofBitVec a.writable) cursor with
  | none => return none
  | some s =>
    let wrap ← writeWrap a.endPort
    return some (cursor, { a with writable := s.toBitVec, nextWrite := ← advance cursor wrap })

def frameLength (s : Snapshot) (port : UInt8) : Except Fault UInt16 := do
  let off ← shl32 port.toUInt32 1
  let lo ← add32 Register.readLength off
  let hi ← add32 (Register.readLength + 1) off
  return ofLe16 (s.byte lo.toNat) (s.byte hi.toNat)

def portAddress (base : UInt32) (port : UInt8) : Except Fault UInt32 := add32 base port.toUInt32

def admit? (t : ClientTable) (mac : Mac) : Except Fault (Option (Nat × ClientTable)) := do
  match t.find? mac with
  | some i => return some (i, t)
  | none =>
    match t.slots.findIdx? (·.isNone) with
    | some i => return some (i, ⟨← assign t.slots i (some mac)⟩)
    | none => return none

def evict? (t : ClientTable) (mac : Mac) : Except Fault (Option (Nat × ClientTable)) := do
  match t.find? mac with
  | some i => return some (i, ⟨← assign t.slots i none⟩)
  | none => return none

def attemptFailed (c : Connection) : Except Fault (Connection.RetryDecision × Connection) := do
  if c.status = .connecting ∧ 0 < c.retriesLeft then
    return (.rescan, { c with retriesLeft := ← sub8 c.retriesLeft 1 })
  else return (.giveUp, { c with status := .notConnected })

theorem dataPort_of_lt {cursor : UInt8} {p : DataPort} (h : cursor.toNat = p.index) :
    dataPort cursor = .ok p := by
  obtain ⟨i, h₁, h₂⟩ := p
  subst h
  exact dif_pos ⟨h₁, h₂⟩

theorem toNat_cursor (p : DataPort) : (UInt8.ofNat p.index).toNat = p.index :=
  UInt8.toNat_ofNat_of_lt' (Nat.lt_trans p.lt_maxPort (by decide))

theorem advance_eq (p : DataPort) {wrap : UInt8} (h : wrap.toNat ≤ maxPort) :
    advance (UInt8.ofNat p.index) wrap = .ok (p.next wrap.toNat) := by
  have hi := toNat_cursor p
  have hp := p.lt_maxPort
  simp only [maxPort] at h hp
  have hs : (UInt8.ofNat p.index + 1).toNat = p.index + 1 := by
    rw [UInt8.toNat_add, hi, UInt8.toNat_one]
    exact Nat.mod_eq_of_lt (by omega)
  have ha : add8 (UInt8.ofNat p.index) 1 = .ok (UInt8.ofNat p.index + 1) := by
    apply if_pos
    rw [hi, UInt8.toNat_one]
    omega
  rw [advance, ha, ok_bind]
  apply dataPort_of_lt
  unfold DataPort.next
  by_cases hw : p.index + 1 < wrap.toNat
  · have hn : ¬ wrap ≤ UInt8.ofNat p.index + 1 := by
      rw [UInt8.le_iff_toNat_le, hs]
      exact Nat.not_le.mpr hw
    rw [if_neg hn, hs, dif_pos ⟨hw, Nat.lt_of_lt_of_le hw h⟩]
  · have hn : wrap ≤ UInt8.ofNat p.index + 1 := by
      rw [UInt8.le_iff_toNat_le, hs]
      exact Nat.not_lt.mp hw
    rw [if_pos hn, dif_neg fun hc ↦ hw hc.1]
    rfl

theorem writeWrap_eq (a : PortAllocator) :
    ∃ wrap, writeWrap a.endPort = .ok wrap ∧ wrap.toNat = a.writeWrap ∧ wrap.toNat ≤ maxPort := by
  have hc : (2 ≤ a.endPort ∧ a.endPort ≤ 16) ↔
      (2 ≤ a.endPort.toNat ∧ a.endPort.toNat ≤ maxPort) := by
    rw [UInt16.le_iff_toNat_le, UInt16.le_iff_toNat_le]
    exact Iff.rfl
  unfold writeWrap PortAllocator.writeWrap
  by_cases h : 2 ≤ a.endPort.toNat ∧ a.endPort.toNat ≤ maxPort
  · have hn : a.endPort.toNat < 0x100 := Nat.lt_of_le_of_lt h.2 (by decide)
    have ht : (UInt8.ofNat a.endPort.toNat).toNat = a.endPort.toNat := UInt8.toNat_ofNat_of_lt' hn
    rw [if_pos (hc.mpr h), if_pos h, narrow8, if_pos hn]
    exact ⟨_, rfl, ht, by rw [ht]; exact h.2⟩
  · rw [if_neg fun hw ↦ h (hc.mp hw), if_neg h]
    exact ⟨16, rfl, rfl, Nat.le_refl _⟩

section Bits

variable {bit : UInt16} {port : Nat}

theorem and_bit_eq_zero (s : PortSet) (hp : port < maxPort) (hb : bit.toBitVec = 1#16 <<< port) :
    UInt16.ofBitVec s &&& bit = 0 ↔ s.contains port = false := by
  have hne : ∀ i : Fin 16, BitVec.twoPow 16 i.val ≠ 0#16 := by decide
  have hn := hne ⟨port, hp⟩
  rw [← UInt16.toBitVec_inj, UInt16.toBitVec_and, hb, ← BitVec.twoPow_eq, BitVec.and_twoPow,
    PortSet.contains]
  cases hs : BitVec.getLsbD s port <;> simp [hn]

theorem and_not_bit (s : PortSet) (hb : bit.toBitVec = 1#16 <<< port) :
    UInt16.ofBitVec s &&& ~~~bit = UInt16.ofBitVec (s.erase port) := by
  rw [← UInt16.toBitVec_inj, UInt16.toBitVec_and, UInt16.toBitVec_not, hb]
  rfl

/-- The bit of a data port, as a shift by a cursor makes it. -/
theorem bit_of_cursor (p : DataPort) :
    ((1 : UInt16) <<< (UInt8.ofNat p.index).toUInt16).toBitVec = 1#16 <<< p.index := by
  have hb : ∀ i : Fin 16, ((1 : UInt16) <<< (UInt8.ofNat i.val).toUInt16).toBitVec =
      1#16 <<< i.val := by decide
  exact hb ⟨p.index, p.lt_maxPort⟩

theorem takePort?_eq (s : PortSet) (p : DataPort) :
    takePort? (UInt16.ofBitVec s) (UInt8.ofNat p.index) =
      .ok (if s.contains p.index then some (UInt16.ofBitVec (s.erase p.index)) else none) := by
  have hl : UInt8.ofNat p.index < 16 := by
    rw [UInt8.lt_iff_toNat_lt, toNat_cursor]
    exact p.lt_maxPort
  have hs : shl16 1 (UInt8.ofNat p.index) = .ok (1 <<< (UInt8.ofNat p.index).toUInt16) := if_pos hl
  simp only [takePort?, hs, ok_bind, and_bit_eq_zero s p.lt_maxPort (bit_of_cursor p),
    and_not_bit s (bit_of_cursor p), pure_eq_ok]
  cases s.contains p.index <;> rfl

end Bits

theorem nextReadable?_eq (a : PortAllocator) : nextReadable? a =
    .ok (a.nextReadable?.map fun r ↦ (UInt8.ofNat r.1, r.2)) := by
  have hb : (1 : UInt16).toBitVec = 1#16 <<< controlPort := rfl
  have hc := and_bit_eq_zero a.readable (by decide) hb
  have he := and_not_bit a.readable hb
  have hr := takePort?_eq a.readable a.nextRead
  have hn : advance (UInt8.ofNat a.nextRead.index) 16 = .ok (a.nextRead.next maxPort) :=
    advance_eq _ (by decide)
  unfold nextReadable? PortAllocator.nextReadable?
  cases h : a.readable.contains controlPort with
  | true =>
    rw [h] at hc
    simp only [ne_eq, hc, he]
    rfl
  | false =>
    rw [h] at hc
    simp only [ne_eq, hc, not_true_eq_false, if_false, hr, hn, ok_bind]
    cases a.readable.contains a.nextRead.index <;> rfl

theorem nextWritable?_eq (a : PortAllocator) : nextWritable? a =
    .ok (a.nextWritable?.map fun r ↦ (UInt8.ofNat r.1, r.2)) := by
  obtain ⟨wrap, hw, ht, hl⟩ := writeWrap_eq a
  have hr := takePort?_eq a.writable a.nextWrite
  have hn := advance_eq a.nextWrite hl
  rw [ht] at hn
  unfold nextWritable? PortAllocator.nextWritable?
  simp only [hr, hw, hn, ok_bind]
  cases a.writable.contains a.nextWrite.index <;> rfl

theorem lt_of_nextReadable? {a b : PortAllocator} {port : Nat}
    (h : a.nextReadable? = some (port, b)) : port < maxPort := by
  obtain ⟨rfl, -⟩ | ⟨rfl, -⟩ := PortAllocator.nextReadable?_cases h
  · decide
  · exact a.nextRead.lt_maxPort

theorem lt_of_nextWritable? {a b : PortAllocator} {port : Nat}
    (h : a.nextWritable? = some (port, b)) : port < maxPort := by
  unfold PortAllocator.nextWritable? at h
  split at h
  · cases h
    exact a.nextWrite.lt_maxPort
  · cases h

theorem frameLength_eq (s : Snapshot) {port : Nat} (h : port < maxPort) :
    frameLength s (UInt8.ofNat port) = .ok (s.frameLength port) := by
  have ho : ∀ i : Fin 16, (UInt8.ofNat i.val).toUInt32 <<< (1 : UInt8).toUInt32 =
      UInt32.ofNat (2 * i.val) := by decide
  have hs : shl32 (UInt8.ofNat port).toUInt32 1 = .ok (UInt32.ofNat (2 * port)) := by
    rw [← ho ⟨port, h⟩]
    rfl
  simp only [maxPort] at h
  have hn : (UInt32.ofNat (2 * port)).toNat = 2 * port :=
    UInt32.toNat_ofNat_of_lt' (Nat.lt_trans (by omega) (by decide : 32 < UInt32.size))
  have ha : ∀ r : UInt32, r.toNat ≤ 16 →
      add32 r (UInt32.ofNat (2 * port)) = .ok (r + UInt32.ofNat (2 * port)) ∧
        (r + UInt32.ofNat (2 * port)).toNat = r.toNat + 2 * port := by
    intro r hr
    refine ⟨if_pos (by rw [hn]; omega), ?_⟩
    rw [UInt32.toNat_add, hn]
    exact Nat.mod_eq_of_lt (by omega)
  obtain ⟨h₁, h₂⟩ := ha Register.readLength (by decide)
  obtain ⟨h₃, h₄⟩ := ha (Register.readLength + 1) (by decide)
  have hr : (Register.readLength + 1).toNat = Register.readLength.toNat + 1 := rfl
  simp only [frameLength, hs, h₁, h₃, ok_bind, pure_eq_ok, h₂, h₄, hr, Snapshot.frameLength,
    Snapshot.word, Nat.add_right_comm]

theorem portAddress_eq {base : UInt32} (hb : base.toNat < 0x1000000) {port : Nat}
    (h : port < maxPort) :
    portAddress base (UInt8.ofNat port) = .ok (SdioWlan.portAddress base port) := by
  have ht : ∀ i : Fin 16, (UInt8.ofNat i.val).toUInt32 = UInt32.ofNat i.val := by decide
  have hp : (UInt32.ofNat port).toNat = port :=
    UInt32.toNat_ofNat_of_lt' (Nat.lt_trans h (by decide))
  have hi : (UInt8.ofNat port).toUInt32 = UInt32.ofNat port := ht ⟨port, h⟩
  simp only [maxPort] at h
  rw [portAddress, hi]
  apply if_pos
  rw [hp]
  omega

theorem lt_of_findIdx? {α : Type} {l : List α} {p : α → Bool} {i : Nat}
    (h : l.findIdx? p = some i) : i < l.length := by
  obtain ⟨hi, -⟩ := List.findIdx?_eq_some_iff_getElem.mp h
  exact hi

theorem admit?_eq (t : ClientTable) (mac : Mac) : admit? t mac = .ok (t.admit? mac) := by
  unfold admit? ClientTable.admit?
  cases t.find? mac with
  | some i => rfl
  | none =>
    cases hi : t.slots.findIdx? (·.isNone) with
    | none => rfl
    | some i =>
      simp only [assign, if_pos (lt_of_findIdx? hi)]
      rfl

theorem evict?_eq (t : ClientTable) (mac : Mac) : evict? t mac = .ok (t.evict? mac) := by
  unfold evict? ClientTable.evict?
  cases hi : t.find? mac with
  | none => rfl
  | some i =>
    simp only [assign, if_pos (lt_of_findIdx? hi)]
    rfl

theorem attemptFailed_eq (c : Connection) : attemptFailed c = .ok c.attemptFailed := by
  unfold attemptFailed Connection.attemptFailed
  split
  · rename_i h
    have hn : c.retriesLeft ≠ 0 := by
      intro hz
      rw [hz] at h
      exact absurd h.2 (by decide)
    rw [sub8_of_ne_zero hn]
    rfl
  · rfl

end SdioWlan.Checked
