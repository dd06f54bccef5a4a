import Mathlib.Data.Finset.Card
import Mathlib.Data.Finset.Dedup
import SdioWlan.Firmware

namespace SdioWlan

structure Registration where
  name : String
  image : Bytes
  deriving DecidableEq, Repr

namespace FirmwareRegistry

/-- The answer to a registration, and the registry that its caller has afterwards. -/
def register (r : FirmwareRegistry) (x : Registration) : Bool × FirmwareRegistry :=
  match r.insert? x.name x.image with
  | some s => (true, s)
  | none => (false, r)

def registerAll (r : FirmwareRegistry) :
    List Registration → List (Registration × Bool) × FirmwareRegistry
  | [] => ([], r)
  | x :: rest =>
    let s := r.register x
    let t := s.2.registerAll rest
    ((x, s.1) :: t.1, t.2)

def latest? (history : List (Registration × Bool)) (name : String) : Option Bytes :=
  (history.reverse.find? fun e ↦ e.2 && e.1.name == name).map (·.1.image)

def registered (history : List (Registration × Bool)) : Finset String :=
  ((history.filter (·.2)).map (·.1.name)).toFinset

/-- A row of places, each with a registration in it or free. -/
structure Places where
  slots : List (Option Registration)
  deriving DecidableEq

namespace Places

def free (n : Nat) : Places := ⟨List.replicate n none⟩

def get? (p : Places) (name : String) : Option Bytes :=
  p.slots.findSome? fun s ↦ (s.filter (·.name == name)).map (·.image)

def register (p : Places) (x : Registration) : Bool × Places :=
  match p.slots.findIdx? (·.any (·.name == x.name)) with
  | some i => (true, ⟨p.slots.set i (some x)⟩)
  | none =>
    match p.slots.findIdx? (·.isNone) with
    | some i => (true, ⟨p.slots.set i (some x)⟩)
    | none => (false, p)

def registerAll (p : Places) : List Registration → List (Registration × Bool) × Places
  | [] => ([], p)
  | x :: rest =>
    let s := p.register x
    let t := s.2.registerAll rest
    ((x, s.1) :: t.1, t.2)

end Places

variable {r : FirmwareRegistry} {x : Registration} {name : String}
  {history : List (Registration × Bool)}

def names (r : FirmwareRegistry) : List String := r.images.map Prod.fst

def replace (images : List (String × Bytes)) (x : Registration) : List (String × Bytes) :=
  images.map fun e ↦ if e.1 = x.name then (x.name, x.image) else e

theorem any_iff_mem_names : r.images.any (·.1 == x.name) = true ↔ x.name ∈ r.names := by
  simp only [List.any_eq_true, beq_iff_eq, names, List.mem_map]

theorem any_eq_false (h : x.name ∉ r.names) : r.images.any (·.1 == x.name) = false :=
  eq_false_of_ne_true (mt any_iff_mem_names.mp h)

theorem register_of_mem (h : x.name ∈ r.names) : r.register x = (true, ⟨replace r.images x⟩) := by
  simp only [register, insert?, any_iff_mem_names.mpr h, if_true]
  rfl

theorem register_of_lt (h : x.name ∉ r.names) (hl : r.images.length < capacity) :
    r.register x = (true, ⟨r.images ++ [(x.name, x.image)]⟩) := by
  simp only [register, insert?, any_eq_false h, Bool.false_eq_true, if_false, if_pos hl]

theorem register_of_full (h : x.name ∉ r.names) (hl : capacity ≤ r.images.length) :
    r.register x = (false, r) := by
  simp only [register, insert?, any_eq_false h, Bool.false_eq_true, if_false,
    if_neg (Nat.not_lt.mpr hl)]

theorem register_of_refused (h : (r.register x).1 = false) : (r.register x).2 = r := by
  unfold register at *
  cases hi : r.insert? x.name x.image with
  | none => rfl
  | some s =>
    rw [hi] at h
    cases h

theorem map_fst_replace (images : List (String × Bytes)) (x : Registration) :
    (replace images x).map Prod.fst = images.map Prod.fst := by
  rw [replace, List.map_map]
  apply List.map_congr_left
  intro e he
  by_cases h : e.1 = x.name
  · rw [Function.comp_apply, if_pos h, h]
  · simp only [Function.comp_apply, if_neg h]

theorem lookup_replace_self {images : List (String × Bytes)} (h : x.name ∈ images.map Prod.fst) :
    (replace images x).lookup x.name = some x.image := by
  induction images with
  | nil => cases h
  | cons e images ih =>
    rw [replace, List.map_cons]
    by_cases he : e.1 = x.name
    · rw [if_pos he, List.lookup_cons_self]
    · have hm : x.name ∈ images.map Prod.fst := by
        rcases List.mem_cons.mp h with hn | hm
        · exact absurd hn.symm he
        · exact hm
      have hb : (x.name == e.1) = false := beq_eq_false_iff_ne.mpr (Ne.symm he)
      rw [if_neg he, List.lookup_cons, hb]
      exact ih hm

theorem lookup_replace_of_ne (images : List (String × Bytes)) (h : name ≠ x.name) :
    (replace images x).lookup name = images.lookup name := by
  have hx : (name == x.name) = false := beq_eq_false_iff_ne.mpr h
  induction images with
  | nil => rfl
  | cons e images ih =>
    obtain ⟨key, image⟩ := e
    rw [replace, List.map_cons, List.lookup_cons]
    by_cases he : key = x.name
    · rw [if_pos he, List.lookup_cons, hx, he, hx]
      exact ih
    · rw [if_neg he, List.lookup_cons]
      cases name == key with
      | true => rfl
      | false => exact ih

theorem lookup_of_not_mem {images : List (String × Bytes)} (h : name ∉ images.map Prod.fst) :
    images.lookup name = none := by
  rw [List.lookup_eq_none_iff]
  intro e he
  rw [bne_iff_ne]
  intro hn
  exact h (hn ▸ List.mem_map_of_mem he)

/-- What is found after a registration that was made. -/
theorem get?_register (h : (r.register x).1 = true) :
    (r.register x).2.get? name = if x.name = name then some x.image else r.get? name := by
  by_cases hm : x.name ∈ r.names
  · rw [register_of_mem hm]
    by_cases hn : x.name = name
    · rw [if_pos hn, ← hn]
      exact lookup_replace_self hm
    · rw [if_neg hn]
      exact lookup_replace_of_ne r.images (Ne.symm hn)
  by_cases hl : r.images.length < capacity
  · rw [register_of_lt hm hl]
    simp only [get?, List.lookup_append]
    by_cases hn : x.name = name
    · rw [if_pos hn, ← hn, lookup_of_not_mem hm, List.lookup_cons_self]
      rfl
    · have hb : (name == x.name) = false := beq_eq_false_iff_ne.mpr (Ne.symm hn)
      rw [if_neg hn, List.lookup_cons, hb, List.lookup_nil, Option.or_none]
  · rw [register_of_full hm (Nat.not_lt.mp hl)] at h
    cases h

theorem latest?_concat (history : List (Registration × Bool)) (x : Registration) (made : Bool) :
    latest? (history ++ [(x, made)]) name =
      if made = true ∧ x.name = name then some x.image else latest? history name := by
  rw [latest?, List.reverse_append, List.reverse_singleton, List.singleton_append,
    List.find?_cons]
  by_cases h : made = true ∧ x.name = name
  · simp [h]
  · have hb : (made && x.name == name) = false := by
      rw [Bool.and_eq_false_iff, beq_eq_false_iff_ne]
      by_cases hm : made = true
      · exact .inr fun hn ↦ h ⟨hm, hn⟩
      · exact .inl (Bool.not_eq_true _ ▸ hm)
    rw [hb, if_neg h]
    rfl

theorem registered_concat (history : List (Registration × Bool)) (x : Registration) (made : Bool) :
    registered (history ++ [(x, made)]) =
      if made = true then insert x.name (registered history) else registered history := by
  cases made with
  | false => simp [registered]
  | true =>
    ext name
    simp [registered]

/-- What the answers to a history of registrations say of the registry that it has made. -/
structure Follows (r : FirmwareRegistry) (history : List (Registration × Bool)) : Prop where
  nodup : r.names.Nodup
  names : r.names.toFinset = registered history
  length_le : r.images.length ≤ capacity
  get : ∀ name, r.get? name = latest? history name

namespace Follows

theorem nil : Follows {} [] where
  nodup := List.nodup_nil
  names := rfl
  length_le := Nat.zero_le _
  get _ := rfl

theorem mem_iff (h : r.Follows history) : name ∈ registered history ↔ name ∈ r.names := by
  rw [← h.names, List.mem_toFinset]

theorem card_eq (h : r.Follows history) : (registered history).card = r.images.length := by
  rw [← h.names, List.toFinset_card_of_nodup h.nodup, FirmwareRegistry.names, List.length_map]

/-- A registration is refused exactly if its name is new and there is no room. -/
theorem refused_iff (h : r.Follows history) :
    (r.register x).1 = false ↔
      x.name ∉ registered history ∧ (registered history).card = capacity := by
  rw [h.mem_iff, h.card_eq]
  by_cases hm : x.name ∈ r.names
  · simp [register_of_mem hm, hm]
  by_cases hl : r.images.length < capacity
  · simp [register_of_lt hm hl, Nat.ne_of_lt hl]
  · have hc := Nat.le_antisymm h.length_le (Nat.not_lt.mp hl)
    simp [register_of_full hm (Nat.not_lt.mp hl), hm, hc]

theorem register (h : r.Follows history) (x : Registration) :
    (r.register x).2.Follows (history ++ [(x, (r.register x).1)]) := by
  have hget (hr : (r.register x).1 = true) (name : String) :
      (r.register x).2.get? name = latest? (history ++ [(x, (r.register x).1)]) name := by
    rw [get?_register hr, latest?_concat, h.get]
    simp only [hr, true_and]
  by_cases hm : x.name ∈ r.names
  · have hr := register_of_mem hm
    have hn : (r.register x).2.names = r.names := by
      rw [hr]
      exact map_fst_replace r.images x
    refine ⟨by rw [hn]; exact h.nodup, ?_, ?_, hget (by rw [hr])⟩
    · rw [hn, h.names, registered_concat, hr, if_pos rfl]
      exact (Finset.insert_eq_of_mem (h.mem_iff.mpr hm)).symm
    · rw [hr]
      exact (List.length_map _).trans_le h.length_le
  by_cases hl : r.images.length < capacity
  · have hr := register_of_lt hm hl
    have hn : (r.register x).2.names = r.names ++ [x.name] := by
      rw [hr, FirmwareRegistry.names, List.map_append]
      rfl
    refine ⟨?_, ?_, ?_, hget (by rw [hr])⟩
    · rw [hn]
      rw [← List.concat_eq_append]
      exact h.nodup.concat hm
    · rw [hn, registered_concat, hr, if_pos rfl, ← h.names, List.toFinset_append]
      exact Finset.union_comm _ _
    · rw [hr, List.length_append]
      exact hl
  · have hr := register_of_full hm (Nat.not_lt.mp hl)
    rw [hr]
    refine ⟨h.nodup, ?_, h.length_le, fun name ↦ ?_⟩
    · rw [registered_concat, h.names]
      rfl
    · rw [latest?_concat, h.get]
      rfl

theorem registerAll (h : r.Follows history) (calls : List Registration) :
    (r.registerAll calls).2.Follows (history ++ (r.registerAll calls).1) := by
  induction calls generalizing r history with
  | nil =>
    rw [FirmwareRegistry.registerAll, List.append_nil]
    exact h
  | cons x rest ih =>
    have hr := ih (h.register x)
    rw [List.append_assoc] at hr
    exact hr

end Follows

namespace Places

def ofRegistry (r : FirmwareRegistry) : Places :=
  ⟨r.images.map (fun e ↦ some ⟨e.1, e.2⟩) ++ List.replicate (capacity - r.images.length) none⟩

theorem get?_ofRegistry (r : FirmwareRegistry) (name : String) :
    (ofRegistry r).get? name = r.get? name := by
  rw [get?, ofRegistry, List.findSome?_append, List.findSome?_map]
  have hfree (n : Nat) : (List.replicate n (none : Option Registration)).findSome?
      (fun s ↦ (s.filter (·.name == name)).map (·.image)) = none := by
    rw [List.findSome?_eq_none_iff]
    intro s hs
    rw [List.eq_of_mem_replicate hs]
    rfl
  rw [hfree, Option.or_none, FirmwareRegistry.get?, List.lookup_eq_findSome?]
  congr 1
  funext e
  by_cases he : e.1 = name
  · simp [he]
  · simp [he, Ne.symm he]

theorem replace_of_not_mem {images : List (String × Bytes)} (h : x.name ∉ images.map Prod.fst) :
    replace images x = images := by
  have hid : ∀ e ∈ images, (if e.1 = x.name then (x.name, x.image) else e) = e := by
    intro e he
    rw [if_neg]
    intro hn
    exact h (hn ▸ List.mem_map_of_mem he)
  rw [replace, List.map_congr_left hid, List.map_id']

/-- With one place for each name, the first place that holds a name is all that is to change. -/
theorem set_eq_replace {images : List (String × Bytes)} (hn : (images.map Prod.fst).Nodup) {i : Nat}
    (hi : images.findIdx? (·.1 == x.name) = some i) :
    images.set i (x.name, x.image) = replace images x := by
  induction images generalizing i with
  | nil => cases hi
  | cons e images ih =>
    rw [List.map_cons, List.nodup_cons] at hn
    rw [List.findIdx?_cons] at hi
    by_cases he : e.1 = x.name
    · rw [if_pos (beq_iff_eq.mpr he)] at hi
      cases hi
      have hr := replace_of_not_mem (he ▸ hn.1)
      rw [List.set_cons_zero, replace, List.map_cons, if_pos he]
      exact congrArg _ hr.symm
    · rw [if_neg (by simpa using he)] at hi
      obtain ⟨j, hj, rfl⟩ := Option.map_eq_some_iff.mp hi
      rw [List.set_cons_succ, ih hn.2 hj, replace, replace, List.map_cons, if_neg he]

theorem findIdx?_name (r : FirmwareRegistry) (x : Registration) :
    (ofRegistry r).slots.findIdx? (·.any (·.name == x.name)) =
      r.images.findIdx? (·.1 == x.name) := by
  have hfree (n : Nat) : (List.replicate n (none : Option Registration)).findIdx?
      (·.any (·.name == x.name)) = none := by
    rw [List.findIdx?_eq_none_iff]
    intro s hs
    rw [List.eq_of_mem_replicate hs]
    rfl
  rw [ofRegistry, List.findIdx?_append, hfree, List.findIdx?_map, Option.map_none, Option.or_none]
  rfl

/-- The first free place is the one after all that are taken. -/
theorem findIdx?_free (r : FirmwareRegistry) :
    (ofRegistry r).slots.findIdx? (·.isNone) =
      if r.images.length < capacity then some r.images.length else none := by
  have htaken : (r.images.map fun e ↦ some (⟨e.1, e.2⟩ : Registration)).findIdx? (·.isNone) =
      none := by
    rw [List.findIdx?_map, List.findIdx?_eq_none_iff]
    intro e he
    rfl
  rw [ofRegistry, List.findIdx?_append, htaken, Option.none_or, List.findIdx?_replicate,
    List.length_map]
  by_cases hl : r.images.length < capacity
  · have hp : 0 < capacity - r.images.length := Nat.sub_pos_of_lt hl
    simp [hl, hp]
  · have hz : capacity - r.images.length = 0 := Nat.sub_eq_zero_of_le (Nat.not_lt.mp hl)
    simp [hl, hz]

theorem set_taken {i : Nat} (hi : i < r.images.length) (x : Registration) :
    ⟨(ofRegistry r).slots.set i (some x)⟩ =
      ofRegistry ⟨r.images.set i (x.name, x.image)⟩ := by
  have hl : i < (r.images.map fun e ↦ some (⟨e.1, e.2⟩ : Registration)).length := by
    rwa [List.length_map]
  simp only [ofRegistry, List.set_append_left i _ hl, List.map_set, List.length_set]

theorem set_free (hl : r.images.length < capacity) (x : Registration) :
    ⟨(ofRegistry r).slots.set r.images.length (some x)⟩ =
      ofRegistry ⟨r.images ++ [(x.name, x.image)]⟩ := by
  have hn : capacity - r.images.length = capacity - (r.images.length + 1) + 1 := by omega
  have hz : r.images.length - (r.images.map fun e ↦ some (⟨e.1, e.2⟩ : Registration)).length =
      0 := by
    rw [List.length_map, Nat.sub_self]
  simp only [ofRegistry]
  rw [List.set_append_right _ _ (Nat.le_of_eq (List.length_map _)), hz, hn, List.replicate_succ,
    List.set_cons_zero, List.map_append, List.length_append, List.append_assoc]
  rfl

/-- A registration does the same to the places as to the registry that they hold. -/
theorem register_ofRegistry (h : r.Follows history) (x : Registration) :
    (ofRegistry r).register x = ((r.register x).1, ofRegistry (r.register x).2) := by
  by_cases hm : x.name ∈ r.names
  · obtain ⟨i, hi⟩ := Option.isSome_iff_exists.mp
      (List.findIdx?_isSome.trans (any_iff_mem_names.mpr hm))
    have hl : i < r.images.length := (List.findIdx?_eq_some_iff_getElem.mp hi).1
    simp only [register, findIdx?_name, hi, register_of_mem hm, set_taken hl,
      set_eq_replace h.nodup hi]
  have hi : r.images.findIdx? (·.1 == x.name) = none := by
    rw [← Option.not_isSome_iff_eq_none, List.findIdx?_isSome]
    exact mt any_iff_mem_names.mp hm
  by_cases hl : r.images.length < capacity
  · simp only [register, findIdx?_name, hi, findIdx?_free, if_pos hl, register_of_lt hm hl,
      set_free hl]
  · simp only [register, findIdx?_name, hi, findIdx?_free, if_neg hl,
      register_of_full hm (Nat.not_lt.mp hl)]

theorem registerAll_ofRegistry (h : r.Follows history) (calls : List Registration) :
    (ofRegistry r).registerAll calls =
      ((r.registerAll calls).1, ofRegistry (r.registerAll calls).2) := by
  induction calls generalizing r history with
  | nil => rfl
  | cons x rest ih =>
    simp only [registerAll, FirmwareRegistry.registerAll, register_ofRegistry h, ih (h.register x)]

end Places

/-- A registry after any registrations. Under each name there is the image of the last registration
that was made, and looking one up says whether there is none, an empty one or another. The next
registration is refused exactly if its name is new and four names are taken, and then it changes
nothing; if it is made, it changes no other name. Four places that are searched for the name, and
then for one that is free, give the same answers and hold the same images. -/
theorem registry_follows_calls (calls : List Registration) (x : Registration) (name : String) :
    let r := ({} : FirmwareRegistry).registerAll calls
    let next := r.2.register x
    let places := (Places.free 4).registerAll calls
    r.2.get? name = latest? r.1 name ∧
      r.2.find name = (match latest? r.1 name with
        | none => .error (.firmware .imageMissing)
        | some image =>
          if image = [] then .error (.firmware .emptyImage) else .ok image) ∧
      (next.1 = false ↔ x.name ∉ registered r.1 ∧ (registered r.1).card = 4) ∧
      (next.1 = false → next.2 = r.2) ∧
      (next.1 = true → next.2.get? x.name = some x.image ∧
        ∀ other, other ≠ x.name → next.2.get? other = r.2.get? other) ∧
      places.1 = r.1 ∧ places.2.get? name = r.2.get? name := by
  intro r next places
  have hf : r.2.Follows r.1 := Follows.nil.registerAll calls
  have hp : places = (r.1, Places.ofRegistry r.2) := Places.registerAll_ofRegistry .nil calls
  refine ⟨hf.get name, ?_, hf.refused_iff, ?_, ?_, ?_, ?_⟩
  · rw [find, hf.get]
    cases latest? r.1 name with
    | none => rfl
    | some image =>
      cases image <;> rfl
  · intro hn
    exact register_of_refused hn
  · intro hn
    refine ⟨?_, fun other ho ↦ ?_⟩
    · rw [get?_register hn, if_pos rfl]
    · rw [get?_register hn, if_neg (Ne.symm ho)]
  · rw [hp]
  · rw [hp]
    exact Places.get?_ofRegistry r.2 name

/-- A fifth name is refused, and two of the four get other images. -/
example :
    let r := ({} : FirmwareRegistry).registerAll
      [⟨"a", [1]⟩, ⟨"b", [2]⟩, ⟨"c", [3]⟩, ⟨"d", [4]⟩, ⟨"e", [5]⟩, ⟨"b", []⟩, ⟨"c", [6]⟩]
    r.1.map (·.2) = [true, true, true, true, false, true, true] ∧
      ["a", "b", "c", "e"].map r.2.find =
        [.ok [1], .error (.firmware .emptyImage), .ok [6], .error (.firmware .imageMissing)] := by
  decide

end FirmwareRegistry

end SdioWlan
