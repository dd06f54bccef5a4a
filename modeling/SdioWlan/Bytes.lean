namespace SdioWlan

abbrev Bytes := List UInt8

def leNat : Bytes → Nat
  | [] => 0
  | b :: bs => b.toNat + 256 * leNat bs

def leBytes : Nat → Nat → Bytes
  | 0, _ => []
  | n + 1, v => UInt8.ofNat v :: leBytes n (v / 256)

@[simp] theorem length_leBytes (n v : Nat) : (leBytes n v).length = n := by
  induction n generalizing v with
  | zero => rfl
  | succ n ih => simp [leBytes, ih]

theorem leNat_lt (bs : Bytes) : leNat bs < Nat.pow 256 bs.length := by
  induction bs with
  | nil => exact Nat.one_pos
  | cons b bs ih =>
    have hb := b.toNat_lt
    have hp : Nat.pow 256 (b :: bs).length = Nat.pow 256 bs.length * 256 := rfl
    rw [leNat, hp]
    omega

theorem leNat_leBytes (n v : Nat) (h : v < Nat.pow 256 n) : leNat (leBytes n v) = v := by
  induction n generalizing v with
  | zero => exact (Nat.lt_one_iff.mp h).symm
  | succ n ih =>
    have hd : v / 256 < Nat.pow 256 n := (Nat.div_lt_iff_lt_mul (by decide)).mpr h
    simp only [leBytes, leNat, ih _ hd, UInt8.toNat_ofNat']
    omega

theorem leBytes_leNat (bs : Bytes) : leBytes bs.length (leNat bs) = bs := by
  induction bs with
  | nil => rfl
  | cons b bs ih =>
    have hb := b.toNat_lt
    have hm : (b.toNat + 256 * leNat bs) / 256 = leNat bs := by omega
    have hl : UInt8.ofNat (b.toNat + 256 * leNat bs) = b := by
      apply UInt8.toNat_inj.mp
      simp only [UInt8.toNat_ofNat']
      omega
    simp [leBytes, leNat, hm, hl, ih]

def le16 (v : UInt16) : Bytes := leBytes 2 v.toNat

def ofLe16 (lo hi : UInt8) : UInt16 := UInt16.ofNat (leNat [lo, hi])

@[simp] theorem length_le16 (v : UInt16) : (le16 v).length = 2 := length_leBytes 2 _

theorem leNat_le16 (v : UInt16) : leNat (le16 v) = v.toNat := leNat_leBytes 2 _ v.toNat_lt

theorem toNat_ofLe16 (a b : UInt8) : (ofLe16 a b).toNat = leNat [a, b] := by
  have ha := a.toNat_lt
  have hb := b.toNat_lt
  simp only [ofLe16, leNat, UInt16.toNat_ofNat']
  omega

theorem le16_ofLe16 (a b : UInt8) : le16 (ofLe16 a b) = [a, b] := by
  rw [le16, toNat_ofLe16]
  exact leBytes_leNat [a, b]

namespace Bytes

/-- The `n` bytes from `off` on, if the string reaches that far. -/
def slice? (b : Bytes) (off n : Nat) : Option Bytes :=
  if off + n ≤ b.length then some ((b.drop off).take n) else none

def u16? (b : Bytes) (off : Nat) : Option UInt16 :=
  (b.slice? off 2).map fun w ↦ UInt16.ofNat (leNat w)

/-- What a zeroed buffer of `n` bytes holds after `b` was copied to its start. -/
def fit (b : Bytes) (n : Nat) : Bytes := b.take n ++ List.replicate (n - b.length) 0

@[simp] theorem length_fit (b : Bytes) (n : Nat) : (b.fit n).length = n := by
  simp [fit]
  omega

theorem slice?_isSome {b : Bytes} {off n : Nat} :
    (b.slice? off n).isSome ↔ off + n ≤ b.length := by
  unfold slice?
  split <;> simp_all

theorem slice?_eq_some_iff {b w : Bytes} {off n : Nat} :
    b.slice? off n = some w ↔ off + n ≤ b.length ∧ w = (b.drop off).take n := by
  unfold slice?
  split <;> rename_i h
  · simp only [Option.some.injEq, h, true_and, eq_comm]
  · simp only [h, false_and, reduceCtorEq]

/-- A number that is read is made of the two bytes that stand there. -/
theorem u16?_eq_some_iff {b : Bytes} {off : Nat} {v : UInt16} :
    b.u16? off = some v ↔ off + 2 ≤ b.length ∧ le16 v = (b.drop off).take 2 := by
  rw [u16?, Option.map_eq_some_iff]
  constructor
  · rintro ⟨w, hs, rfl⟩
    obtain ⟨h, rfl⟩ := slice?_eq_some_iff.mp hs
    have hl : ((b.drop off).take 2).length = 2 := by
      rw [List.length_take, List.length_drop]
      omega
    have hlt := leNat_lt ((b.drop off).take 2)
    have hb := leBytes_leNat ((b.drop off).take 2)
    rw [hl] at hlt hb
    exact ⟨h, by rw [le16, UInt16.toNat_ofNat_of_lt' hlt, hb]⟩
  · rintro ⟨h, hv⟩
    exact ⟨_, slice?_eq_some_iff.mpr ⟨h, rfl⟩, by rw [← hv, leNat_le16, UInt16.ofNat_toNat]⟩

theorem exists_u16? {b : Bytes} {off : Nat} (h : off + 2 ≤ b.length) :
    ∃ v, b.u16? off = some v ∧ le16 v = (b.drop off).take 2 := by
  have hs : (b.u16? off).isSome := by rwa [u16?, Option.isSome_map, slice?_isSome]
  obtain ⟨v, hv⟩ := Option.isSome_iff_exists.mp hs
  exact ⟨v, hv, (u16?_eq_some_iff.mp hv).2⟩

theorem slice?_append {p : Bytes} {off : Nat} (h : p.length = off) (w rest : Bytes) :
    (p ++ (w ++ rest)).slice? off w.length = some w := by
  have hl : off + w.length ≤ (p ++ (w ++ rest)).length := by
    simp only [List.length_append, h]
    omega
  rw [slice?, if_pos hl, ← h, List.drop_left, List.take_left]

theorem u16?_append {p : Bytes} {off : Nat} (h : p.length = off) (v : UInt16) (rest : Bytes) :
    (p ++ (le16 v ++ rest)).u16? off = some v := by
  have hs : (p ++ (le16 v ++ rest)).slice? off 2 = some (le16 v) := slice?_append h (le16 v) rest
  rw [u16?, hs, Option.map_some, leNat_le16, UInt16.ofNat_toNat]

end Bytes

end SdioWlan
