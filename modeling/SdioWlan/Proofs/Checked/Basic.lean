import SdioWlan.Frame

namespace SdioWlan.Checked

/-- A machine with words of at least 32 bits. No buffer is longer than `maxSlice`, and a word counts
to twice as much and one more. `memory` is how many bytes there can be at all; words have at least
four bits more than it takes to count them, as with the addresses of 57 bits that machines with
words of 64 have. -/
class Machine where
  maxSlice : Nat
  memory : Nat
  le_maxSlice : 0x7FFFFFFF ≤ maxSlice
  memory_le : 8 * memory ≤ maxSlice

export Machine (maxSlice memory le_maxSlice memory_le)

@[reducible] def words64 : Machine where
  maxSlice := 0x7FFFFFFFFFFFFFFF
  memory := 0x200000000000000
  le_maxSlice := by decide
  memory_le := by decide

inductive Fault
  | outOfBounds
  | lengthMismatch
  | overflow
  | lossyCast
  | shiftTooFar
  | outOfMemory
  deriving DecidableEq, Repr

@[simp] theorem ok_bind {ε α β : Type} (a : α) (f : α → Except ε β) :
    (Except.ok a >>= f) = f a := rfl

@[simp] theorem pure_eq_ok {ε α : Type} (a : α) : (pure a : Except ε α) = .ok a := rfl

theorem bind_eq_ok {ε α β : Type} {x : Except ε α} {f : α → Except ε β} {b : β}
    (h : (x >>= f) = .ok b) : ∃ a, x = .ok a ∧ f a = .ok b := by
  cases x with
  | error e => cases h
  | ok a => exact ⟨a, rfl, h⟩

section Buffers

variable {α : Type}

def index (b : List α) (i : Nat) : Except Fault α :=
  match b[i]? with
  | some a => .ok a
  | none => .error .outOfBounds

def range? (b : List α) (lo hi : Nat) : Option (List α) :=
  if lo ≤ hi ∧ hi ≤ b.length then some ((b.drop lo).take (hi - lo)) else none

def slice (b : List α) (lo hi : Nat) : Except Fault (List α) :=
  match range? b lo hi with
  | some s => .ok s
  | none => .error .outOfBounds

def sliceFrom (b : List α) (lo : Nat) : Except Fault (List α) := slice b lo b.length

def assign (b : List α) (i : Nat) (a : α) : Except Fault (List α) :=
  if i < b.length then .ok (b.set i a) else .error .outOfBounds

def copyInto (b : List α) (lo hi : Nat) (source : List α) : Except Fault (List α) := do
  let room ← slice b lo hi
  if room.length = source.length then return b.take lo ++ source ++ b.drop hi
  else throw .lengthMismatch

def macOf : Bytes → Except Fault Mac
  | [a, b, c, d, e, f] => .ok ⟨a, b, c, d, e, f⟩
  | _ => .error .lengthMismatch

variable {b pre rest source : List α} {lo hi i : Nat}

@[simp] theorem index_zero (a : α) : index (a :: b) 0 = .ok a := rfl

@[simp] theorem index_succ (a : α) : index (a :: b) (i + 1) = index b i := rfl

theorem index_of_lt (h : i < b.length) : index b i = .ok b[i] := by
  rw [index, List.getElem?_eq_getElem h]

theorem slice_of_le (h : lo ≤ hi) (h' : hi ≤ b.length) :
    slice b lo hi = .ok ((b.drop lo).take (hi - lo)) := by
  rw [slice, range?, if_pos ⟨h, h'⟩]

theorem slice_zero (h : hi ≤ b.length) : slice b 0 hi = .ok (b.take hi) := by
  rw [slice_of_le (Nat.zero_le _) h, List.drop_zero, Nat.sub_zero]

theorem slice_left (h : hi = pre.length) : slice (pre ++ rest) 0 hi = .ok pre := by
  rw [slice_zero (by rw [h, List.length_append]; exact Nat.le_add_right _ _), h, List.take_left]

theorem sliceFrom_of_le (h : lo ≤ b.length) : sliceFrom b lo = .ok (b.drop lo) := by
  rw [sliceFrom, slice_of_le h (Nat.le_refl _),
    List.take_of_length_le (Nat.le_of_eq List.length_drop)]

/-- Writing goes on where what has been written ends. -/
theorem copyInto_append (h : lo = pre.length) (h' : hi = pre.length + source.length)
    (hl : source.length ≤ rest.length) :
    copyInto (pre ++ rest) lo hi source = .ok (pre ++ source ++ rest.drop source.length) := by
  subst h h'
  have hs : slice (pre ++ rest) pre.length (pre.length + source.length) =
      .ok (rest.take source.length) := by
    rw [slice_of_le (Nat.le_add_right _ _), List.drop_left, Nat.add_sub_cancel_left]
    rw [List.length_append]
    omega
  have hd : (pre ++ rest).drop (pre.length + source.length) = rest.drop source.length := by
    rw [List.drop_append, List.drop_of_length_le (Nat.le_add_right _ _), List.nil_append,
      Nat.add_sub_cancel_left]
  simp only [copyInto, hs, ok_bind, List.length_take, Nat.min_eq_left hl, if_true,
    List.take_left, hd, pure_eq_ok]

theorem copyInto_start (h : hi = source.length) (hb : hi ≤ b.length) :
    copyInto b 0 hi source = .ok (source ++ b.drop hi) := by
  have hl : hi = ([] : List α).length + source.length := by rw [List.length_nil, Nat.zero_add, h]
  have hc : copyInto ([] ++ b) 0 hi source = .ok ([] ++ source ++ b.drop source.length) :=
    copyInto_append rfl hl (by rwa [← h])
  rwa [List.nil_append, List.nil_append, ← h] at hc

theorem copyInto_whole (h : hi = b.length) (h' : source.length = b.length) :
    copyInto b 0 hi source = .ok source := by
  rw [copyInto_start (by rw [h, h']) (Nat.le_of_eq h), h, List.drop_length, List.append_nil]

theorem copyInto_drop (h : lo = pre.length)
    (hs : hi = lo + source.length) (hb : hi ≤ b.length) :
    copyInto (pre ++ b.drop lo) lo hi source = .ok (pre ++ source ++ b.drop hi) := by
  rw [copyInto_append h (by rw [hs, h]), List.drop_drop, ← hs]
  rw [List.length_drop]
  omega

theorem assign_drop (h : i = pre.length) (hb : i < b.length) (a : α) :
    assign (pre ++ b.drop i) i a = .ok (pre ++ [a] ++ b.drop (i + 1)) := by
  subst h
  rw [assign, if_pos (by rw [List.length_append, List.length_drop]; omega),
    List.set_append_right _ _ (Nat.le_refl _), Nat.sub_self, List.drop_eq_getElem_cons hb,
    List.set_cons_zero, List.append_assoc]
  rfl

end Buffers

section Numbers

def narrow8 (n : Nat) : Except Fault UInt8 :=
  if n < 0x100 then .ok (UInt8.ofNat n) else .error .lossyCast

def narrow16 (n : Nat) : Except Fault UInt16 :=
  if n < 0x10000 then .ok (UInt16.ofNat n) else .error .lossyCast

def add8 (a b : UInt8) : Except Fault UInt8 :=
  if a.toNat + b.toNat < 0x100 then .ok (a + b) else .error .overflow

def sub8 (a b : UInt8) : Except Fault UInt8 :=
  if b ≤ a then .ok (a - b) else .error .overflow

def sub16 (a b : UInt16) : Except Fault UInt16 :=
  if b ≤ a then .ok (a - b) else .error .overflow

def add32 (a b : UInt32) : Except Fault UInt32 :=
  if a.toNat + b.toNat < 0x100000000 then .ok (a + b) else .error .overflow

def shl8 (a : UInt8) (n : UInt8) : Except Fault UInt8 :=
  if n < 8 then .ok (a <<< n) else .error .shiftTooFar

def shl16 (a : UInt16) (n : UInt8) : Except Fault UInt16 :=
  if n < 16 then .ok (a <<< n.toUInt16) else .error .shiftTooFar

def shl32 (a : UInt32) (n : UInt8) : Except Fault UInt32 :=
  if n < 32 then .ok (a <<< n.toUInt32) else .error .shiftTooFar

def subSize (a b : Nat) : Except Fault Nat :=
  if b ≤ a then .ok (a - b) else .error .overflow

theorem subSize_of_le {a b : Nat} (h : b ≤ a) : subSize a b = .ok (a - b) := if_pos h

theorem sub8_of_ne_zero {a : UInt8} (h : a ≠ 0) : sub8 a 1 = .ok (a - 1) := by
  apply if_pos
  rw [UInt8.le_iff_toNat_le, UInt8.toNat_one]
  exact Nat.one_le_iff_ne_zero.mpr fun hz ↦ h (UInt8.toNat_inj.mp hz)

theorem toNat_of_sub8 {a b : UInt8} (h : sub8 a 1 = .ok b) : a.toNat = b.toNat + 1 := by
  unfold sub8 at h
  split at h
  · rename_i hl
    cases h
    have hs := UInt8.toNat_sub_of_le _ _ hl
    have hn := UInt8.le_iff_toNat_le.mp hl
    simp only [UInt8.toNat_one] at hs hn
    omega
  · cases h

variable [Machine]

def addSize (a b : Nat) : Except Fault Nat :=
  if a + b ≤ 2 * maxSlice + 1 then .ok (a + b) else .error .overflow

def mulSize (a b : Nat) : Except Fault Nat :=
  if a * b ≤ 2 * maxSlice + 1 then .ok (a * b) else .error .overflow

def reserve (n : Nat) : Except Fault Unit :=
  if n ≤ maxSlice then .ok () else .error .outOfMemory

def extend (b more : Bytes) : Except Fault Bytes := do
  reserve (← addSize b.length more.length)
  return b ++ more

theorem eq_of_addSize {a b c : Nat} (h : addSize a b = .ok c) : c = a + b := by
  unfold addSize at h
  split at h
  · exact (Except.ok.inj h).symm
  · cases h

theorem addSize_of_le {a b : Nat} (h : a + b ≤ maxSlice) : addSize a b = .ok (a + b) :=
  if_pos (Nat.le_trans h (by omega))

/-- Offsets of fixed fields stay within every machine's words. -/
theorem addSize_of_small {a b : Nat} (h : a + b ≤ 0x7FFFFFFF) : addSize a b = .ok (a + b) :=
  addSize_of_le (Nat.le_trans h le_maxSlice)

theorem extend_of_le {b more : Bytes} (h : b.length + more.length ≤ maxSlice) :
    extend b more = .ok (b ++ more) := by
  simp only [extend, addSize_of_le h, ok_bind, reserve, if_pos h, pure_eq_ok]

end Numbers

end SdioWlan.Checked
