import SdioWlan.Proofs.ClientTable

namespace SdioWlan.ClientTable

inductive Change
  | enter (mac : Mac)
  | evict (mac : Mac)
  | clear
  deriving DecidableEq, Repr

inductive Answer
  | slot (i : Nat)
  | full (mac : Mac)
  | left (i : Option Nat)
  | cleared
  deriving DecidableEq, Repr

/-- The answer to a change, and the table that its caller has afterwards. -/
def apply (t : ClientTable) : Change → Answer × ClientTable
  | .enter mac =>
    match t.admit? mac with
    | some (i, u) => (.slot i, u)
    | none => (.full mac, t)
  | .evict mac =>
    match t.evict? mac with
    | some (i, u) => (.left (some i), u)
    | none => (.left none, t)
  | .clear => (.cleared, t.clear)

def applyAll (t : ClientTable) : List Change → List (Change × Answer) × ClientTable
  | [] => ([], t)
  | c :: rest =>
    let r := t.apply c
    let u := r.2.applyAll rest
    ((c, r.1) :: u.1, u.2)

def keep (S : Finset Mac) : Change × Answer → Finset Mac
  | (.enter mac, .slot _) => insert mac S
  | (.enter _, _) => S
  | (.evict mac, _) => S.erase mac
  | (.clear, _) => ∅

/-- Whoever was admitted and has been neither evicted nor cleared away since. -/
def present (history : List (Change × Answer)) : Finset Mac := history.foldl keep ∅

def Occupies (t : ClientTable) (i : Nat) (mac : Mac) : Prop := t.slots[i]? = some (some mac)

def Free (t : ClientTable) (i : Nat) : Prop := t.slots[i]? = some none

/-- How a change to a table of the clients of `S` is answered, and which table it leaves. -/
inductive Changes (t : ClientTable) (S : Finset Mac) : Change → Answer → ClientTable → Prop
  | known {mac : Mac} {i : Nat} (hm : mac ∈ S) (hi : t.Occupies i mac) :
      Changes t S (.enter mac) (.slot i) t
  | admitted {mac : Mac} {i : Nat} {u : ClientTable} (hm : mac ∉ S) (hi : t.Free i)
      (hl : ∀ j < i, ¬ t.Free j) (hu : u.Occupies i mac)
      (ho : ∀ j, j ≠ i → u.slots[j]? = t.slots[j]?) : Changes t S (.enter mac) (.slot i) u
  | refused {mac : Mac} (hm : mac ∉ S) (hf : ∀ j, ¬ t.Free j) :
      Changes t S (.enter mac) (.full mac) t
  | evicted {mac : Mac} {i : Nat} {u : ClientTable} (hm : mac ∈ S) (hi : t.Occupies i mac)
      (hu : u.Free i) (ho : ∀ j, j ≠ i → u.slots[j]? = t.slots[j]?) :
      Changes t S (.evict mac) (.left (some i)) u
  | unknown {mac : Mac} (hm : mac ∉ S) : Changes t S (.evict mac) (.left none) t
  | cleared {u : ClientTable} (hl : u.slots.length = t.slots.length)
      (hu : ∀ mac j, ¬ u.Occupies j mac) : Changes t S .clear .cleared u

/-- A table of `n` slots and what can be asked about it, if the clients of `S` are in. -/
structure Shows (t : ClientTable) (n : Nat) (S : Finset Mac) : Prop where
  slots : t.slots.length = n
  unique : ∀ i j mac, t.Occupies i mac → t.Occupies j mac → i = j
  mem : ∀ mac, mac ∈ S ↔ ∃ i, t.Occupies i mac
  find : ∀ mac i, t.find? mac = some i ↔ t.Occupies i mac
  missing : ∀ mac, t.find? mac = none ↔ mac ∉ S
  listed : ∀ i mac, (i, mac) ∈ t.toList ↔ t.Occupies i mac
  inOrder : t.toList.Pairwise fun a b ↦ a.1 < b.1
  size : t.size = S.card
  empty : t.isEmpty = true ↔ S = ∅

variable {t : ClientTable} {S : Finset Mac} {mac : Mac} {i : Nat}

theorem mem_toList_iff : (i, mac) ∈ t.toList ↔ t.Occupies i mac := by
  simp only [toList, List.mem_filterMap, Occupies]
  constructor
  · intro h
    obtain ⟨⟨slot, j⟩, hz, hs⟩ := h
    obtain ⟨m, hm, he⟩ := Option.map_eq_some_iff.mp hs
    cases he
    have hj := List.mem_zipIdx_iff_getElem?.mp hz
    rw [hj]
    exact congrArg some hm
  · intro h
    exact ⟨(some mac, i), List.mem_zipIdx_iff_getElem?.mpr h, rfl⟩

theorem toList_pairwise (t : ClientTable) : t.toList.Pairwise fun a b ↦ a.1 < b.1 := by
  have hz : t.slots.zipIdx.Pairwise fun a b ↦ a.2 < b.2 := by
    apply List.pairwise_map.mp
    rw [List.zipIdx_map_snd]
    exact List.pairwise_lt_range'
  apply List.Pairwise.filterMap _ _ hz
  intro a b hab x hx y hy
  obtain ⟨-, -, rfl⟩ := Option.map_eq_some_iff.mp hx
  obtain ⟨-, -, rfl⟩ := Option.map_eq_some_iff.mp hy
  exact hab

theorem size_eq_length (t : ClientTable) : t.size = t.slots.reduceOption.length := by
  rw [size, List.countP_eq_length_filter, List.reduceOption_length_eq]

theorem Tracks.shows (h : t.Tracks S) : t.Shows t.slots.length S where
  slots := rfl
  unique i j mac hi hj := by
    have hn := h.nodup
    rw [members_eq] at hn
    exact eq_of_nodup_reduceOption hn hi hj
  mem mac := by
    rw [h.mem_iff, List.mem_iff_getElem?]
    exact Iff.rfl
  find mac i := h.find?_eq_some_iff
  missing mac := by rw [find?_eq_none_iff, h.mem_iff]
  listed i mac := mem_toList_iff
  inOrder := t.toList_pairwise
  size := by rw [size_eq_length, h.card_eq]
  empty := by
    rw [isEmpty, beq_iff_eq, size_eq_length, ← h.card_eq, Finset.card_eq_zero]

/-- The slot that the search for a free one stops at. -/
theorem lowest_free (h : t.slots.findIdx? (·.isNone) = some i) :
    t.Free i ∧ ∀ j < i, ¬ t.Free j := by
  obtain ⟨hi, hp, hl⟩ := List.findIdx?_eq_some_iff_getElem.mp h
  constructor
  · rw [Free, List.getElem?_eq_getElem hi, Option.isNone_iff_eq_none.mp hp]
  · intro j hj hf
    have hn := hl j hj
    rw [Free, List.getElem?_eq_getElem (Nat.lt_trans hj hi), Option.some_inj] at hf
    rw [hf] at hn
    exact hn rfl

theorem not_free (h : t.slots.findIdx? (·.isNone) = none) (j : Nat) : ¬ t.Free j := by
  intro hf
  have hn := List.findIdx?_eq_none_iff.mp h none (List.mem_of_getElem? hf)
  cases hn

theorem changes_enter (h : t.Tracks S) (mac : Mac) :
    t.Changes S (.enter mac) (t.apply (.enter mac)).1 (t.apply (.enter mac)).2 := by
  by_cases hm : mac ∈ S
  · obtain ⟨i, ha⟩ := h.admit?_of_mem hm
    have hi : t.find? mac = some i := by
      obtain ⟨j, hj⟩ := Option.isSome_iff_exists.mp (h.find?_isSome_iff.mpr hm)
      rw [admit?, hj] at ha
      cases ha
      exact hj
    simp only [apply, ha]
    exact .known hm (getElem?_of_find? hi)
  · have hn := h.find?_eq_none hm
    cases hi : t.slots.findIdx? (·.isNone) with
    | none =>
      simp only [apply, admit?, hn, hi]
      exact .refused hm (not_free hi)
    | some i =>
      obtain ⟨hf, hl⟩ := lowest_free hi
      obtain ⟨hlt, -⟩ := List.getElem?_eq_some_iff.mp hf
      simp only [apply, admit?, hn, hi]
      apply Changes.admitted hm hf hl
      · exact List.getElem?_set_self hlt
      · intro j hj
        exact List.getElem?_set_ne (Ne.symm hj)

theorem changes_evict (h : t.Tracks S) (mac : Mac) :
    t.Changes S (.evict mac) (t.apply (.evict mac)).1 (t.apply (.evict mac)).2 := by
  cases hf : t.find? mac with
  | none =>
    have hm : mac ∉ S := by rw [← h.find?_isSome_iff, hf]; exact Bool.false_ne_true
    simp only [apply, evict?, hf, Option.map_none]
    exact .unknown hm
  | some i =>
    have hm : mac ∈ S := by rw [← h.find?_isSome_iff, hf]; rfl
    have hi := getElem?_of_find? hf
    obtain ⟨hlt, -⟩ := List.getElem?_eq_some_iff.mp hi
    simp only [apply, evict?, hf, Option.map_some]
    apply Changes.evicted hm hi
    · exact List.getElem?_set_self hlt
    · intro j hj
      exact List.getElem?_set_ne (Ne.symm hj)

theorem changes_clear (t : ClientTable) (S : Finset Mac) : t.Changes S .clear .cleared t.clear := by
  apply Changes.cleared List.length_replicate
  intro mac j hj
  have hm := List.eq_of_mem_replicate (List.mem_of_getElem? hj)
  cases hm

/-- Every change is answered as it should be. -/
theorem Tracks.changes (h : t.Tracks S) (c : Change) :
    t.Changes S c (t.apply c).1 (t.apply c).2 := by
  cases c with
  | enter mac => exact changes_enter h mac
  | evict mac => exact changes_evict h mac
  | clear => exact changes_clear t S

/-- The set keeps up with the table, and whoever stays in stays where it is. -/
theorem Tracks.moves (h : t.Tracks S) (c : Change) :
    Moves t (t.apply c).2 S (keep S (c, (t.apply c).1)) := by
  cases c with
  | enter mac =>
    by_cases hm : mac ∈ S
    · obtain ⟨i, ha⟩ := h.admit?_of_mem hm
      simp only [ClientTable.apply, ha, keep, Finset.insert_eq_of_mem hm]
      exact .refl h
    by_cases hl : S.card < t.slots.length
    · obtain ⟨i, u, ha, hu⟩ := h.admit?_of_lt hm hl
      simp only [ClientTable.apply, ha, keep]
      exact hu
    · have ha := h.admit?_of_full hm (Nat.not_lt.mp hl)
      simp only [ClientTable.apply, ha, keep]
      exact .refl h
  | evict mac =>
    by_cases hm : mac ∈ S
    · obtain ⟨i, u, he, hu⟩ := h.evict?_of_mem hm
      simp only [ClientTable.apply, he, keep]
      exact hu
    · have he := h.evict?_of_not_mem hm
      simp only [ClientTable.apply, he, keep, Finset.erase_eq_of_notMem hm]
      exact .refl h
  | clear => exact h.moves_clear

theorem Tracks.applyAll (h : t.Tracks S) (changes : List Change) :
    (t.applyAll changes).2.Tracks ((t.applyAll changes).1.foldl keep S) ∧
      (t.applyAll changes).2.slots.length = t.slots.length := by
  induction changes generalizing t S with
  | nil => exact ⟨h, rfl⟩
  | cons c rest ih =>
    have hm := h.moves c
    obtain ⟨hr, hl⟩ := ih hm.after
    exact ⟨hr, hl.trans hm.length⟩

/-- A newcomer is turned away exactly when every slot is taken. -/
theorem Tracks.full_iff (h : t.Tracks S) (c : Change) :
    (t.apply c).1 = .full mac ↔ c = .enter mac ∧ mac ∉ S ∧ S.card = t.slots.length := by
  have hle : S.card ≤ t.slots.length := by
    rw [h.card_eq]
    exact List.reduceOption_length_le _
  constructor
  · intro ha
    have hc := h.changes c
    generalize (t.apply c).2 = u at hc
    rw [ha] at hc
    cases hc with
    | refused hm hf =>
      refine ⟨rfl, hm, Nat.le_antisymm hle (Nat.not_lt.mp ?_)⟩
      intro hl
      obtain ⟨j, hj⟩ := List.mem_iff_getElem?.mp (h.card_lt_iff.mp hl)
      exact hf j hj
  · intro hc
    obtain ⟨rfl, hm, hs⟩ := hc
    have ha := h.admit?_of_full hm (Nat.le_of_eq hs.symm)
    simp only [ClientTable.apply, ha]

/-- A table of any size after any changes. What it shows is what the set of those who are in says:
nobody has two slots, and searching, listing, counting and asking whether it is empty agree. The
next change is answered according to this set. A newcomer gets the lowest free slot, whoever leaves
frees its own, and a refusal, which comes exactly when every slot is taken, changes nothing. Whoever
was in and stays in keeps its slot. -/
theorem table_follows_changes (n : Nat) (changes : List Change) (c : Change) (mac : Mac) :
    let r := (empty n).applyAll changes
    let S := present r.1
    let next := r.2.apply c
    r.2.Shows n S ∧ r.2.Changes S c next.1 next.2 ∧
      (next.1 = .full mac ↔ c = .enter mac ∧ mac ∉ S ∧ S.card = n) ∧
      ∀ other ∈ S, other ∈ keep S (c, next.1) → next.2.find? other = r.2.find? other := by
  intro r S next
  obtain ⟨ht, hl⟩ := (tracks_empty n).applyAll changes
  have hn : r.2.slots.length = n := hl.trans List.length_replicate
  have hs := ht.shows
  have hf : next.1 = .full mac ↔ _ := ht.full_iff c
  rw [hn] at hs hf
  exact ⟨hs, ht.changes c, hf, (ht.moves c).unmoved⟩

end SdioWlan.ClientTable
