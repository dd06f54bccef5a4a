import Mathlib.Data.Finset.Card
import Mathlib.Data.List.ReduceOption
import SdioWlan.Interface

namespace SdioWlan

section Slots

variable {α : Type} {l : List (Option α)} {a : α} {i j : Nat}

theorem reduceOption_set_perm (h : l[i]? = some none) :
    (l.set i (some a)).reduceOption.Perm (a :: l.reduceOption) := by
  induction l generalizing i with
  | nil => cases h
  | cons x l ih =>
    cases i with
    | zero =>
      obtain rfl : x = none := Option.some.inj h
      exact .refl _
    | succ i =>
      have hp := ih (i := i) h
      cases x with
      | none => exact hp
      | some b =>
        rw [List.set_cons_succ, List.reduceOption_cons_of_some, List.reduceOption_cons_of_some]
        exact (hp.cons b).trans (.swap a b _)

/-- What is in the slots once is in one slot. -/
theorem eq_of_nodup_reduceOption (h : l.reduceOption.Nodup) (hi : l[i]? = some (some a))
    (hj : l[j]? = some (some a)) : i = j := by
  induction l generalizing i j with
  | nil => cases hi
  | cons x l ih =>
    have hmem {k : Nat} (hk : l[k]? = some (some a)) : a ∈ l.reduceOption :=
      List.reduceOption_mem_iff.mpr (List.mem_of_getElem? hk)
    cases x with
    | none =>
      cases i with
      | zero => cases hi
      | succ i =>
        cases j with
        | zero => cases hj
        | succ j => exact congrArg (· + 1) (ih h hi hj)
    | some b =>
      rw [List.reduceOption_cons_of_some, List.nodup_cons] at h
      cases i with
      | zero =>
        cases hi
        cases j with
        | zero => rfl
        | succ j => exact absurd (hmem hj) h.1
      | succ i =>
        cases j with
        | zero =>
          cases hj
          exact absurd (hmem hi) h.1
        | succ j => exact congrArg (· + 1) (ih h.2 hi hj)

end Slots

namespace ClientTable

variable {t u : ClientTable} {S T : Finset Mac} {mac : Mac} {i : Nat}

def members (t : ClientTable) : List Mac := t.toList.map (·.2)

theorem members_eq (t : ClientTable) : t.members = t.slots.reduceOption := by
  have hf : (fun s : Option Mac × Nat ↦ (s.1.map fun mac ↦ (s.2, mac)).map (·.2)) = Prod.fst := by
    funext s
    cases s.1 <;> rfl
  have hz := List.filterMap_map (f := Prod.fst) (g := id) (l := t.slots.zipIdx)
  rw [List.zipIdx_map_fst] at hz
  rw [members, toList, List.map_filterMap, hf]
  exact hz.symm

/-- The clients in the slots of a table are those of a set, each in one slot. -/
structure Tracks (t : ClientTable) (S : Finset Mac) : Prop where
  nodup : t.members.Nodup
  toFinset : t.members.toFinset = S

theorem find?_eq_none_iff : t.find? mac = none ↔ some mac ∉ t.slots := by
  rw [find?, List.findIdx?_eq_none_iff]
  constructor
  · intro h hm
    have := h (some mac) hm
    simp at this
  · intro h x hx
    simp only [beq_eq_false_iff_ne, ne_eq]
    intro he
    exact h (he ▸ hx)

theorem getElem?_of_find? (h : t.find? mac = some i) : t.slots[i]? = some (some mac) := by
  obtain ⟨hi, hp, -⟩ := List.findIdx?_eq_some_iff_getElem.mp h
  rw [List.getElem?_eq_getElem hi, eq_of_beq hp]

theorem tracks_empty (n : Nat) : (empty n).Tracks ∅ := by
  have hm : (empty n).members = [] := by
    rw [members_eq, empty, List.reduceOption_replicate_none]
  exact ⟨by rw [hm]; exact List.nodup_nil, by rw [hm]; rfl⟩

namespace Tracks

theorem mem_iff (h : t.Tracks S) : mac ∈ S ↔ some mac ∈ t.slots := by
  rw [← h.toFinset, List.mem_toFinset, members_eq, List.reduceOption_mem_iff]

theorem card_eq (h : t.Tracks S) : S.card = t.slots.reduceOption.length := by
  rw [← h.toFinset, List.toFinset_card_of_nodup h.nodup, members_eq]

theorem card_lt_iff (h : t.Tracks S) : S.card < t.slots.length ↔ none ∈ t.slots := by
  rw [h.card_eq, List.reduceOption_length_lt_iff]

theorem find?_eq_some_iff (h : t.Tracks S) :
    t.find? mac = some i ↔ t.slots[i]? = some (some mac) := by
  refine ⟨getElem?_of_find?, fun hi ↦ ?_⟩
  cases hf : t.find? mac with
  | none => exact absurd (List.mem_of_getElem? hi) (find?_eq_none_iff.mp hf)
  | some j =>
    have hn := h.nodup
    rw [members_eq] at hn
    rw [eq_of_nodup_reduceOption hn hi (getElem?_of_find? hf)]

theorem find?_eq_none (h : t.Tracks S) (hm : mac ∉ S) : t.find? mac = none :=
  find?_eq_none_iff.mpr fun hs ↦ hm (h.mem_iff.mpr hs)

theorem find?_isSome_iff (h : t.Tracks S) : (t.find? mac).isSome ↔ mac ∈ S := by
  rw [h.mem_iff, Option.isSome_iff_ne_none, ne_eq, find?_eq_none_iff, not_not]

end Tracks

/-- A table of the clients of `S` becomes one of those of `T`. Whoever is in both keeps its slot. -/
structure Moves (t u : ClientTable) (S T : Finset Mac) : Prop where
  before : t.Tracks S
  after : u.Tracks T
  length : u.slots.length = t.slots.length
  unmoved : ∀ mac ∈ S, mac ∈ T → u.find? mac = t.find? mac

namespace Moves

theorem refl (h : t.Tracks S) : Moves t t S S := ⟨h, h, rfl, fun _ _ _ ↦ rfl⟩

theorem of_getElem? (ht : t.Tracks S) (hu : u.Tracks T) (hl : u.slots.length = t.slots.length)
    (hs : ∀ mac ∈ T, ∀ j : Nat, t.slots[j]? = some (some mac) → u.slots[j]? = some (some mac)) :
    Moves t u S T := by
  refine ⟨ht, hu, hl, ?_⟩
  intro mac hS hT
  cases hf : t.find? mac with
  | none => exact absurd (ht.mem_iff.mp hS) (find?_eq_none_iff.mp hf)
  | some j => exact hu.find?_eq_some_iff.mpr (hs mac hT j (getElem?_of_find? hf))

/-- A table whose clients stay the same does not change. -/
theorem eq (h : Moves t u S S) : u = t := by
  have hf {mac : Mac} {j : Nat} (hm : mac ∈ S) :
      u.slots[j]? = some (some mac) ↔ t.slots[j]? = some (some mac) := by
    rw [← h.after.find?_eq_some_iff, ← h.before.find?_eq_some_iff, h.unmoved mac hm hm]
  suffices hs : u.slots = t.slots by
    cases u
    cases t
    exact congrArg ClientTable.mk hs
  apply List.ext_getElem h.length
  intro j hu ht
  cases hx : u.slots[j] with
  | some mac =>
    have hj : u.slots[j]? = some (some mac) := by rw [List.getElem?_eq_getElem hu, hx]
    have hm := h.after.mem_iff.mpr (List.mem_of_getElem? hj)
    rw [hf hm, List.getElem?_eq_getElem ht] at hj
    exact (Option.some.inj hj).symm
  | none =>
    cases hy : t.slots[j] with
    | none => rfl
    | some mac =>
      have hj : t.slots[j]? = some (some mac) := by rw [List.getElem?_eq_getElem ht, hy]
      have hm := h.before.mem_iff.mpr (List.mem_of_getElem? hj)
      rw [← hf hm, List.getElem?_eq_getElem hu, hx] at hj
      cases hj

end Moves

namespace Tracks

theorem admit?_of_mem (h : t.Tracks S) (hm : mac ∈ S) : ∃ i, t.admit? mac = some (i, t) := by
  obtain ⟨i, hf⟩ := Option.isSome_iff_exists.mp (h.find?_isSome_iff.mpr hm)
  exact ⟨i, by rw [admit?, hf]⟩

theorem admit?_of_full (h : t.Tracks S) (hm : mac ∉ S) (hf : t.slots.length ≤ S.card) :
    t.admit? mac = none := by
  have hn : none ∉ t.slots := fun hn ↦ Nat.not_lt.mpr hf (h.card_lt_iff.mpr hn)
  have hi : t.slots.findIdx? (·.isNone) = none := by
    rw [List.findIdx?_eq_none_iff]
    intro x hx
    cases x with
    | none => exact absurd hx hn
    | some a => rfl
  rw [admit?, h.find?_eq_none hm]
  simp only [hi]

/-- A newcomer gets a slot if there is one, and nobody else moves. -/
theorem admit?_of_lt (h : t.Tracks S) (hm : mac ∉ S) (hl : S.card < t.slots.length) :
    ∃ i u, t.admit? mac = some (i, u) ∧ Moves t u S (insert mac S) := by
  cases hi : t.slots.findIdx? (·.isNone) with
  | none =>
    have hn := List.findIdx?_eq_none_iff.mp hi none (h.card_lt_iff.mp hl)
    cases hn
  | some i =>
    obtain ⟨hlt, hp, -⟩ := List.findIdx?_eq_some_iff_getElem.mp hi
    have hs : t.slots[i]? = some none := by
      rw [List.getElem?_eq_getElem hlt, Option.isNone_iff_eq_none.mp hp]
    let u : ClientTable := ⟨t.slots.set i (some mac)⟩
    have hp : u.members.Perm (mac :: t.members) := by
      rw [members_eq, members_eq]
      exact reduceOption_set_perm hs
    have hu : u.Tracks (insert mac S) := by
      constructor
      · refine hp.nodup_iff.mpr (List.nodup_cons.mpr ⟨?_, h.nodup⟩)
        rw [← List.mem_toFinset, h.toFinset]
        exact hm
      · rw [List.toFinset_eq_of_perm _ _ hp, List.toFinset_cons, h.toFinset]
    refine ⟨i, u, ?_, .of_getElem? h hu List.length_set ?_⟩
    · rw [admit?, h.find?_eq_none hm]
      simp only [hi, u]
    · intro other _ j hj
      have hne : i ≠ j := by
        rintro rfl
        rw [hs] at hj
        cases hj
      rw [List.getElem?_set_ne hne]
      exact hj

theorem evict?_of_not_mem (h : t.Tracks S) (hm : mac ∉ S) : t.evict? mac = none := by
  rw [evict?, h.find?_eq_none hm, Option.map_none]

/-- Whoever leaves frees its slot, and nobody else moves. -/
theorem evict?_of_mem (h : t.Tracks S) (hm : mac ∈ S) :
    ∃ i u, t.evict? mac = some (i, u) ∧ Moves t u S (S.erase mac) := by
  obtain ⟨i, hf⟩ := Option.isSome_iff_exists.mp (h.find?_isSome_iff.mpr hm)
  have hs := getElem?_of_find? hf
  let u : ClientTable := ⟨t.slots.set i none⟩
  obtain ⟨hlt, he⟩ := List.getElem?_eq_some_iff.mp hs
  have hback : u.slots.set i (some mac) = t.slots := by
    rw [List.set_set, ← he, List.set_getElem_self]
  have hp : t.members.Perm (mac :: u.members) := by
    have hn : u.slots[i]? = some none := List.getElem?_set_self hlt
    rw [members_eq, members_eq, ← hback]
    exact reduceOption_set_perm hn
  have hnd := List.nodup_cons.mp (hp.nodup_iff.mp h.nodup)
  have hu : u.Tracks (S.erase mac) := by
    refine ⟨hnd.2, ?_⟩
    rw [← h.toFinset, List.toFinset_eq_of_perm _ _ hp, List.toFinset_cons,
      Finset.erase_insert (fun hmem ↦ hnd.1 (List.mem_toFinset.mp hmem))]
  refine ⟨i, u, by rw [evict?, hf, Option.map_some], .of_getElem? h hu List.length_set ?_⟩
  intro other ho j hj
  have hij : i ≠ j := by
    rintro rfl
    rw [hs] at hj
    cases hj
    exact (Finset.mem_erase.mp ho).1 rfl
  rw [List.getElem?_set_ne hij]
  exact hj

theorem moves_clear (h : t.Tracks S) : Moves t t.clear S ∅ where
  before := h
  after := tracks_empty t.slots.length
  length := List.length_replicate
  unmoved _ _ hm := absurd hm (Finset.notMem_empty _)

end Tracks

end ClientTable

end SdioWlan
