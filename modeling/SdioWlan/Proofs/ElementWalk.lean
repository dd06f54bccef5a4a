import SdioWlan.Proofs.Checked.Scanning
import SdioWlan.Proofs.Elements

namespace SdioWlan

namespace Tlv

variable {format : Format} {buf rest : Bytes} {t : Tlv}

def declared? : Format → Bytes → Option Nat
  | .chip, _ :: _ :: n₀ :: n₁ :: _ => some (ofLe16 n₀ n₁).toNat
  | .beacon, _ :: n :: _ => some n.toNat
  | _, _ => none

/-- The bytes end within a header, or before the end of what the header states. -/
def Truncated (format : Format) (buf : Bytes) : Prop :=
  buf.length < format.headerSize ∨
    ∃ n, declared? format buf = some n ∧ buf.length - format.headerSize < n

theorem cut_eq_none_iff {type : UInt16} {n : Nat} :
    split?.cut type n rest = none ↔ rest.length < n := by
  have hm : (rest.take n).length = n ↔ ¬ rest.length < n := by
    rw [List.length_take]
    omega
  by_cases h : rest.length < n
  · rw [split?.cut, if_neg (fun hl ↦ hm.mp hl h), iff_true_intro h, eq_self_iff_true]
  · rw [split?.cut, if_pos (hm.mpr h), iff_false_intro h]
    exact iff_false_intro (Option.some_ne_none _)

theorem truncated_iff_of_declared {n : Nat} (h : format.headerSize ≤ buf.length)
    (hn : declared? format buf = some n) :
    Truncated format buf ↔ buf.length - format.headerSize < n := by
  constructor
  · intro ht
    rcases ht with hl | ⟨m, hm, hl⟩
    · omega
    · rw [hn] at hm
      cases hm
      exact hl
  · intro hl
    exact .inr ⟨n, hn, hl⟩

/-- Where no element starts, the bytes are cut short. -/
theorem truncated_iff : Truncated format buf ↔ split? format buf = none := by
  cases format with
  | chip =>
    rcases buf with _ | ⟨t₀, _ | ⟨t₁, _ | ⟨n₀, _ | ⟨n₁, rest⟩⟩⟩⟩
    case cons.cons.cons.cons =>
      rw [split?, cut_eq_none_iff]
      exact truncated_iff_of_declared (Nat.le_add_left 4 rest.length) rfl
    all_goals exact ⟨fun _ ↦ rfl, fun _ ↦ .inl (by simp [Format.headerSize])⟩
  | beacon =>
    rcases buf with _ | ⟨t, _ | ⟨n, rest⟩⟩
    case cons.cons =>
      rw [split?, cut_eq_none_iff]
      exact truncated_iff_of_declared (Nat.le_add_left 2 rest.length) rfl
    all_goals exact ⟨fun _ ↦ rfl, fun _ ↦ .inl (by simp [Format.headerSize])⟩

theorem headerSize_pos (format : Format) : 0 < format.headerSize := by
  cases format <;> decide

/-- There is no more than one element for each header that the buffer has room for. -/
theorem length_walk (format : Format) (buf : Bytes) :
    (walk format buf).elements.length * format.headerSize + (walk format buf).tail.length ≤
      buf.length := by
  fun_induction walk format buf with
  | case1 buf hs => simp
  | case2 buf t rest hs w ih =>
    have hl := length_of_split? hs
    simp only [w, List.length_cons, Nat.succ_mul]
    omega

structure Cursor where
  format : Format
  rest : Bytes
  failed : Bool
  deriving DecidableEq

namespace Cursor

def start (format : Format) (buf : Bytes) : Cursor := ⟨format, buf, false⟩

def next (c : Cursor) : Option (Except DriverError Tlv) × Cursor :=
  if c.failed ∨ c.rest = [] then (none, c)
  else match split? c.format c.rest with
    | some (t, rest) => (some (.ok t), { c with rest })
    | none => (some (.error .malformedTlv), { c with failed := true })

def answer : Nat → Cursor → Option (Except DriverError Tlv)
  | 0, c => c.next.1
  | k + 1, c => answer k c.next.2

/-- Everything that an iterator is going to answer. -/
def items (c : Cursor) : List (Except DriverError Tlv) :=
  if c.failed then []
  else
    let w := walk c.format c.rest
    w.elements.map .ok ++ if w.tail = [] then [] else [.error .malformedTlv]

theorem items_next (c : Cursor) :
    c.next.1 = c.items.head? ∧ c.next.2.items = c.items.tail := by
  obtain ⟨format, rest, failed⟩ := c
  cases failed with
  | true => exact ⟨rfl, rfl⟩
  | false =>
    by_cases hr : rest = []
    · subst hr
      simp [next, items, walk_nil]
    cases hs : split? format rest with
    | none => simp [next, items, hr, hs, walk_of_not_split? hs]
    | some r =>
      obtain ⟨t, rest'⟩ := r
      simp [next, items, hr, hs, walk_of_split? hs]

theorem answer_eq (k : Nat) (c : Cursor) : c.answer k = c.items[k]? := by
  induction k generalizing c with
  | zero => rw [answer, c.items_next.1, List.head?_eq_getElem?]
  | succ k ih => rw [answer, ih, c.items_next.2, List.getElem?_tail]

/-- One answer for each header that the buffer has room for, and one error. -/
theorem length_items_start (format : Format) (buf : Bytes) :
    (start format buf).items.length ≤ buf.length / format.headerSize + 1 := by
  have hw : (walk format buf).elements.length ≤ buf.length / format.headerSize := by
    rw [Nat.le_div_iff_mul_le (headerSize_pos format)]
    exact Nat.le_trans (Nat.le_add_right _ _) (length_walk format buf)
  rw [items, start, if_neg Bool.false_ne_true, List.length_append, List.length_map]
  apply Nat.add_le_add hw
  split <;> simp

end Cursor

end Tlv

namespace Checked.Cursor

variable [Machine]

def answer : Nat → Cursor → Except Fault (Option (Except DriverError Tlv))
  | 0, c => do return (← c.next).1
  | k + 1, c => do answer k (← c.next).2

/-- A place in a buffer, and the iterator that has come as far. -/
structure Shows (c : Cursor) (d : Tlv.Cursor) : Prop where
  format : d.format = c.format
  rest : d.rest = c.buf.drop c.pos
  failed : d.failed = c.failed
  length_le : c.buf.length ≤ maxSlice

theorem shows_start (format : Tlv.Format) {buf : Bytes} (h : buf.length ≤ maxSlice) :
    (start format buf).Shows (.start format buf) := ⟨rfl, rfl, rfl, h⟩

theorem Shows.next {c : Cursor} {d : Tlv.Cursor} (h : c.Shows d) :
    ∃ c', c.next = .ok (d.next.1, c') ∧ c'.Shows d.next.2 := by
  by_cases hf : c.failed
  · have hd : d.next = (none, d) := if_pos (.inl (h.failed.trans hf))
    refine ⟨c, ?_, ?_⟩
    · simp only [Cursor.next, hf, Bool.true_or, if_true, pure_eq_ok, hd]
    · rw [hd]
      exact h
  have hf : c.failed = false := eq_false_of_ne_true hf
  by_cases hp : c.buf.length ≤ c.pos
  · have hd : d.next = (none, d) := if_pos (.inr (h.rest.trans (List.drop_of_length_le hp)))
    refine ⟨c, ?_, ?_⟩
    · rw [next_of_end hp, hd]
    · rw [hd]
      exact h
  have hn : ¬ (d.failed = true ∨ d.rest = []) := by
    rw [h.failed, hf, h.rest, List.drop_eq_nil_iff]
    exact fun hc ↦ hc.elim Bool.false_ne_true hp
  rw [next_of_lt hf (Nat.not_le.mp hp) h.length_le, Tlv.Cursor.next, if_neg hn, h.format, h.rest]
  cases hs : Tlv.split? c.format (c.buf.drop c.pos) with
  | none => exact ⟨_, rfl, ⟨rfl, rfl, rfl, h.length_le⟩⟩
  | some r =>
    obtain ⟨t, rest⟩ := r
    refine ⟨_, rfl, ⟨rfl, ?_, h.failed, h.length_le⟩⟩
    rw [rest_of_split? hs, List.drop_drop]

theorem Shows.answer {c : Cursor} {d : Tlv.Cursor} (h : c.Shows d) (k : Nat) :
    c.answer k = .ok (d.answer k) := by
  induction k generalizing c d with
  | zero =>
    obtain ⟨c', hc, -⟩ := h.next
    simp only [Cursor.answer, hc, ok_bind, pure_eq_ok, Tlv.Cursor.answer]
  | succ k ih =>
    obtain ⟨c', hc, h'⟩ := h.next
    simp only [Cursor.answer, hc, ok_bind, ih h', Tlv.Cursor.answer]

end Checked.Cursor

namespace Tlv

/-- The walk over any buffer in either format. The iterator answers with the whole elements at the
start of the buffer and then, if anything is left, with one error; after that, and from then on
whatever is left, with nothing. The encodings of the elements and what is left make up the buffer.
What is left, if there is anything, is less than a header or less than its header states. In a
buffer that a machine can hold no access is out of bounds. -/
theorem elements_walked [Checked.Machine] (format : Format) (buf : Bytes) :
    let w := walk format buf
    let items := w.elements.map .ok ++ if w.tail = [] then [] else [.error .malformedTlv]
    (∀ k, (Cursor.start format buf).answer k = items[k]?) ∧
      (∀ k, buf.length / format.headerSize < k → (Cursor.start format buf).answer k = none) ∧
      (∀ t ∈ w.elements, Encodable format t) ∧
      w.elements.flatMap (encode format) ++ w.tail = buf ∧
      (.error .malformedTlv ∉ items ↔ w.elements.flatMap (encode format) = buf) ∧
      (.error .malformedTlv ∈ items ↔ w.tail ≠ []) ∧
      (w.tail ≠ [] → Truncated format w.tail) ∧
      (buf.length ≤ Checked.maxSlice → ∀ k,
        (Checked.Cursor.start format buf).answer k = .ok items[k]?) := by
  intro w items
  obtain ⟨he, hb, ht⟩ := walk_spec format buf
  have ha (k : Nat) : (Cursor.start format buf).answer k = items[k]? := Cursor.answer_eq k _
  have hm : .error .malformedTlv ∈ items ↔ w.tail ≠ [] := by
    by_cases hw : w.tail = []
    · simp [items, hw]
    · simp [items, hw]
  refine ⟨ha, ?_, he, hb.symm, ?_, hm, fun _ ↦ truncated_iff.mpr ht, ?_⟩
  · intro k hk
    rw [ha, List.getElem?_eq_none_iff]
    exact Nat.le_trans (Cursor.length_items_start format buf) hk
  · rw [hm, Decidable.not_not]
    constructor
    · intro hw
      rw [hb, hw, List.append_nil]
    · intro hw
      rw [hw] at hb
      exact List.append_right_eq_self.mp hb.symm
  · intro hl k
    rw [(Checked.Cursor.shows_start format hl).answer, ha]

/-- A whole element, and one that states ten bytes with a single one left. -/
example :
    (List.range 4).map (Cursor.answer · (.start .beacon [0, 2, 0x61, 0x62, 48, 10, 1])) =
      [some (.ok ⟨0, [0x61, 0x62]⟩), some (.error .malformedTlv), none, none] := by
  decide

end Tlv

end SdioWlan
