import Mathlib.Data.List.DropRight
import SdioWlan.Text

namespace SdioWlan.Text

namespace Utf8

def encode (cs : List Char) : Bytes := cs.flatMap String.utf8EncodeChar

def Continues (b : UInt8) : Prop := 0x80 ≤ b.toNat ∧ b.toNat < 0xC0

/-- The rows of bytes that stand for a character, with the number of the character. The first two
bytes together are such that every character has one row only. -/
inductive Form : Nat → Bytes → Prop
  | one (a : UInt8) (ha : a.toNat < 0x80) : Form a.toNat [a]
  | two (a b : UInt8) (ha : 0xC2 ≤ a.toNat ∧ a.toNat < 0xE0) (hb : Continues b) :
    Form (64 * (a.toNat - 0xC0) + (b.toNat - 0x80)) [a, b]
  | three (a b c : UInt8) (ha : 0xE0 ≤ a.toNat ∧ a.toNat < 0xF0) (hb : Continues b)
    (hc : Continues c) (hlow : a.toNat = 0xE0 → 0xA0 ≤ b.toNat)
    (hhigh : a.toNat = 0xED → b.toNat ≤ 0x9F) :
    Form (64 * (64 * (a.toNat - 0xE0) + (b.toNat - 0x80)) + (c.toNat - 0x80)) [a, b, c]
  | four (a b c d : UInt8) (ha : 0xF0 ≤ a.toNat ∧ a.toNat < 0xF5) (hb : Continues b)
    (hc : Continues c) (hd : Continues d) (hlow : a.toNat = 0xF0 → 0x90 ≤ b.toNat)
    (hhigh : a.toNat = 0xF4 → b.toNat ≤ 0x8F) :
    Form (64 * (64 * (64 * (a.toNat - 0xF0) + (b.toNat - 0x80)) + (c.toNat - 0x80)) +
      (d.toNat - 0x80)) [a, b, c, d]

theorem toNat_ofNat {n : Nat} (h : n.isValidChar) : (Char.ofNat n).toNat = n := by
  rw [Char.ofNat, dif_pos h]
  exact UInt32.toNat_ofNatLT ..

theorem ofNat_eq {n : Nat} (b : UInt8) (h : n = b.toNat) : UInt8.ofNat n = b := by
  rw [h, UInt8.ofNat_toNat]

/-- The first bytes of a length are one case. Some of them have bounds of their own for the byte
that follows. -/
theorem Lead.ofByte?_eq (a : UInt8) : Lead.ofByte? a =
    if a.toNat < 0x80 then some { bits := a.toNat, more := 0 }
    else if a.toNat < 0xC2 then none
    else if a.toNat < 0xE0 then some { bits := a.toNat - 0xC0, more := 1 }
    else if a.toNat < 0xF0 then
      some {
        bits := a.toNat - 0xE0
        more := 2
        low := if a.toNat = 0xE0 then 0xA0 else 0x80
        high := if a.toNat = 0xED then 0x9F else 0xBF }
    else if a.toNat < 0xF5 then
      some {
        bits := a.toNat - 0xF0
        more := 3
        low := if a.toNat = 0xF0 then 0x90 else 0x80
        high := if a.toNat = 0xF4 then 0x8F else 0xBF }
    else none := by
  simp only [Lead.ofByte?, UInt8.lt_iff_toNat_lt, ← UInt8.toNat_inj, UInt8.reduceToNat]
  -- the tests on the two sides come in different orders, so most of the cases cannot be
  split_ifs <;> first | omega | simp only [Option.some.injEq, Lead.mk.injEq, and_self, and_true] <;>
    omega

namespace Form

variable {v : Nat} {form : Bytes}

theorem valid (h : Form v form) : v.isValidChar := by
  unfold Nat.isValidChar
  cases h with
  | one a ha => omega
  | two a b ha hb =>
    unfold Continues at *
    omega
  | three a b c ha hb hc hlow hhigh =>
    unfold Continues at *
    omega
  | four a b c d ha hb hc hd hlow hhigh =>
    unfold Continues at *
    omega

theorem eq_encodeChar (h : Form v form) : form = String.utf8EncodeChar (Char.ofNat v) := by
  have hv : (Char.ofNat v).val.toNat = v := toNat_ofNat h.valid
  simp only [String.utf8EncodeChar, hv]
  cases h with
  | one a ha =>
    rw [if_pos (by omega), UInt8.ofNat_toNat]
  | two a b ha hb =>
    unfold Continues at *
    rw [if_neg (by omega), if_pos (by omega), ofNat_eq a (by omega), ofNat_eq b (by omega)]
  | three a b c ha hb hc hlow hhigh =>
    unfold Continues at *
    rw [if_neg (by omega), if_neg (by omega), if_pos (by omega), ofNat_eq a (by omega),
      ofNat_eq b (by omega), ofNat_eq c (by omega)]
  | four a b c d ha hb hc hd hlow hhigh =>
    unfold Continues at *
    rw [if_neg (by omega), if_neg (by omega), if_neg (by omega), ofNat_eq a (by omega),
      ofNat_eq b (by omega), ofNat_eq c (by omega), ofNat_eq d (by omega)]

theorem encodeChar (c : Char) : Form c.toNat (String.utf8EncodeChar c) := by
  have hc : c.toNat.isValidChar := c.valid
  unfold Nat.isValidChar at hc
  have hv : c.val.toNat = c.toNat := rfl
  simp only [String.utf8EncodeChar, hv]
  generalize c.toNat = v at hc
  have byte (n : Nat) (hn : n < 256) : (UInt8.ofNat n).toNat = n := by
    rw [UInt8.toNat_ofNat', Nat.mod_eq_of_lt hn]
  by_cases h1 : v ≤ 127
  · have ha := byte v (by omega)
    rw [if_pos h1]
    generalize UInt8.ofNat v = a at ha
    subst ha
    exact one a (by omega)
  by_cases h2 : v ≤ 2047
  · have ha := byte (v / 64 % 32 + 192) (by omega)
    have hb := byte (v % 64 + 128) (by omega)
    rw [if_neg h1, if_pos h2]
    generalize UInt8.ofNat (v / 64 % 32 + 192) = a at ha
    generalize UInt8.ofNat (v % 64 + 128) = b at hb
    have hf := two a b (by omega) (by unfold Continues; omega)
    rwa [show 64 * (a.toNat - 0xC0) + (b.toNat - 0x80) = v by omega] at hf
  by_cases h3 : v ≤ 65535
  · have ha := byte (v / 4096 % 16 + 224) (by omega)
    have hb := byte (v / 64 % 64 + 128) (by omega)
    have hc := byte (v % 64 + 128) (by omega)
    rw [if_neg h1, if_neg h2, if_pos h3]
    generalize UInt8.ofNat (v / 4096 % 16 + 224) = a at ha
    generalize UInt8.ofNat (v / 64 % 64 + 128) = b at hb
    generalize UInt8.ofNat (v % 64 + 128) = c at hc
    have hf := three a b c (by omega) (by unfold Continues; omega) (by unfold Continues; omega)
      (by omega) (by omega)
    rwa [show 64 * (64 * (a.toNat - 0xE0) + (b.toNat - 0x80)) + (c.toNat - 0x80) = v by omega] at hf
  · have ha := byte (v / 262144 % 8 + 240) (by omega)
    have hb := byte (v / 4096 % 64 + 128) (by omega)
    have hc := byte (v / 64 % 64 + 128) (by omega)
    have hd := byte (v % 64 + 128) (by omega)
    rw [if_neg h1, if_neg h2, if_neg h3]
    generalize UInt8.ofNat (v / 262144 % 8 + 240) = a at ha
    generalize UInt8.ofNat (v / 4096 % 64 + 128) = b at hb
    generalize UInt8.ofNat (v / 64 % 64 + 128) = c at hc
    generalize UInt8.ofNat (v % 64 + 128) = d at hd
    have hf := four a b c d (by omega) (by unfold Continues; omega) (by unfold Continues; omega)
      (by unfold Continues; omega) (by omega) (by omega)
    rwa [show 64 * (64 * (64 * (a.toNat - 0xF0) + (b.toNat - 0x80)) + (c.toNat - 0x80)) +
      (d.toNat - 0x80) = v by omega] at hf

/-- A byte of ASCII is never part of a longer row. -/
theorem eq_singleton {b : UInt8} (h : Form v form) (hm : b ∈ form) (hb : b.toNat < 0x80) :
    v = b.toNat ∧ form = [b] := by
  have apart (hlong : ∀ x ∈ form, 0x80 ≤ x.toNat) : v = b.toNat ∧ form = [b] :=
    absurd (hlong b hm) (Nat.not_le.mpr hb)
  cases h with
  | one a ha =>
    rw [List.mem_singleton.mp hm]
    exact ⟨rfl, rfl⟩
  | two a b ha hb =>
    apply apart
    simp only [List.forall_mem_cons]
    exact ⟨by omega, hb.1, List.forall_mem_nil _⟩
  | three a b c ha hb hc hlow hhigh =>
    apply apart
    simp only [List.forall_mem_cons]
    exact ⟨by omega, hb.1, hc.1, List.forall_mem_nil _⟩
  | four a b c d ha hb hc hd hlow hhigh =>
    apply apart
    simp only [List.forall_mem_cons]
    exact ⟨by omega, hb.1, hc.1, hd.1, List.forall_mem_nil _⟩

theorem ne_nil (h : Form v form) : form ≠ [] := by
  cases h <;> exact List.cons_ne_nil _ _

end Form

theorem pieces_lead {a : UInt8} {l : Lead} (h : Lead.ofByte? a = some l) (bs : Bytes) :
    pieces (a :: bs) = (follow l.more l.low l.high l.bits bs).1.map Char.ofNat ::
      pieces (follow l.more l.low l.high l.bits bs).2 := by
  rw [pieces, h]

theorem follow_cons {low high b : UInt8} (h : low ≤ b ∧ b ≤ high) (n v : Nat) (bs : Bytes) :
    follow (n + 1) low high v (b :: bs) = follow n 0x80 0xBF (64 * v + (b.toNat - 0x80)) bs := by
  rw [follow, if_pos h]

theorem continues_iff {b : UInt8} : Continues b ↔ 0x80 ≤ b ∧ b ≤ 0xBF := by
  rw [UInt8.le_iff_toNat_le, UInt8.le_iff_toNat_le, Continues, Nat.lt_iff_le_pred (by decide)]
  rfl

/-- The byte that follows the first one of a long character. -/
theorem within_iff {b : UInt8} {p q : Prop} [Decidable p] [Decidable q] (low high : UInt8)
    (hl : 0x80 ≤ low.toNat) (hh : high.toNat ≤ 0xBF) :
    (if p then low else 0x80) ≤ b ∧ b ≤ (if q then high else 0xBF) ↔
      Continues b ∧ (p → low.toNat ≤ b.toNat) ∧ (q → b.toNat ≤ high.toNat) := by
  unfold Continues
  by_cases hp : p <;> by_cases hq : q <;>
    simp only [UInt8.le_iff_toNat_le, UInt8.reduceToNat, hp, hq, if_true, if_false, true_imp_iff,
      false_imp_iff, true_and, and_true] <;>
    omega

/-- A first byte that is followed by others has them within its bounds. -/
theorem exists_of_follow {n v w : Nat} {low high : UInt8} {bs : Bytes}
    (h : (follow (n + 1) low high v bs).1 = some w) :
    ∃ b rest, bs = b :: rest ∧ (low ≤ b ∧ b ≤ high) ∧
      follow (n + 1) low high v bs = follow n 0x80 0xBF (64 * v + (b.toNat - 0x80)) rest := by
  cases bs with
  | nil => cases h
  | cons b rest =>
    by_cases hb : low ≤ b ∧ b ≤ high
    · exact ⟨b, rest, rfl, hb, follow_cons hb n v rest⟩
    · rw [follow, if_neg hb] at h
      cases h

theorem pieces_form {v : Nat} {form : Bytes} (h : Form v form) (bs : Bytes) :
    pieces (form ++ bs) = some (Char.ofNat v) :: pieces bs := by
  cases h with
  | one a ha =>
    have hl := Lead.ofByte?_eq a
    rw [if_pos ha] at hl
    exact pieces_lead hl bs
  | two a b ha hb =>
    have hl := Lead.ofByte?_eq a
    rw [if_neg (by omega), if_neg (by omega), if_pos (by omega)] at hl
    refine (pieces_lead hl (b :: bs)).trans ?_
    rw [follow_cons (continues_iff.mp hb)]
    rfl
  | three a b c ha hb hc hlow hhigh =>
    have hl := Lead.ofByte?_eq a
    rw [if_neg (by omega), if_neg (by omega), if_neg (by omega), if_pos (by omega)] at hl
    refine (pieces_lead hl (b :: c :: bs)).trans ?_
    rw [follow_cons ((within_iff _ _ (by decide) (by decide)).mpr ⟨hb, hlow, hhigh⟩),
      follow_cons (continues_iff.mp hc)]
    rfl
  | four a b c d ha hb hc hd hlow hhigh =>
    have hl := Lead.ofByte?_eq a
    rw [if_neg (by omega), if_neg (by omega), if_neg (by omega), if_neg (by omega),
      if_pos (by omega)] at hl
    refine (pieces_lead hl (b :: c :: d :: bs)).trans ?_
    rw [follow_cons ((within_iff _ _ (by decide) (by decide)).mpr ⟨hb, hlow, hhigh⟩),
      follow_cons (continues_iff.mp hc), follow_cons (continues_iff.mp hd)]
    rfl

/-- A first byte and those that follow it within the bounds stand for a character. -/
theorem form_of_follow {a : UInt8} {l : Lead} {bs : Bytes} {v : Nat}
    (hl : Lead.ofByte? a = some l) (hv : (follow l.more l.low l.high l.bits bs).1 = some v) :
    ∃ more, Form v (a :: more) ∧ bs = more ++ (follow l.more l.low l.high l.bits bs).2 := by
  rw [Lead.ofByte?_eq] at hl
  by_cases h1 : a.toNat < 0x80
  · rw [if_pos h1, Option.some.injEq] at hl
    subst hl
    obtain rfl := Option.some.inj hv
    exact ⟨[], .one a h1, rfl⟩
  by_cases h2 : a.toNat < 0xC2
  · rw [if_neg h1, if_pos h2] at hl
    cases hl
  by_cases h3 : a.toNat < 0xE0
  · rw [if_neg h1, if_neg h2, if_pos h3, Option.some.injEq] at hl
    subst hl
    obtain ⟨b, rest, rfl, hb, hf⟩ := exists_of_follow hv
    rw [hf] at hv ⊢
    obtain rfl := Option.some.inj hv
    exact ⟨[b], .two a b (by omega) (continues_iff.mpr hb), rfl⟩
  by_cases h4 : a.toNat < 0xF0
  · rw [if_neg h1, if_neg h2, if_neg h3, if_pos h4, Option.some.injEq] at hl
    subst hl
    obtain ⟨b, rest, rfl, hb, hf⟩ := exists_of_follow hv
    rw [hf] at hv ⊢
    obtain ⟨c, rest, rfl, hc, hf⟩ := exists_of_follow hv
    rw [hf] at hv ⊢
    obtain rfl := Option.some.inj hv
    obtain ⟨hb, hlow, hhigh⟩ := (within_iff _ _ (by decide) (by decide)).mp hb
    exact ⟨[b, c], .three a b c (by omega) hb (continues_iff.mpr hc) hlow hhigh, rfl⟩
  by_cases h5 : a.toNat < 0xF5
  · rw [if_neg h1, if_neg h2, if_neg h3, if_neg h4, if_pos h5, Option.some.injEq] at hl
    subst hl
    obtain ⟨b, rest, rfl, hb, hf⟩ := exists_of_follow hv
    rw [hf] at hv ⊢
    obtain ⟨c, rest, rfl, hc, hf⟩ := exists_of_follow hv
    rw [hf] at hv ⊢
    obtain ⟨d, rest, rfl, hd, hf⟩ := exists_of_follow hv
    rw [hf] at hv ⊢
    obtain rfl := Option.some.inj hv
    obtain ⟨hb, hlow, hhigh⟩ := (within_iff _ _ (by decide) (by decide)).mp hb
    exact ⟨[b, c, d], .four a b c d (by omega) hb (continues_iff.mpr hc) (continues_iff.mpr hd)
      hlow hhigh, rfl⟩
  · rw [if_neg h1, if_neg h2, if_neg h3, if_neg h4, if_neg h5] at hl
    cases hl

/-- A first character comes from the bytes that stand for it. -/
theorem exists_form {c : Char} {bs : Bytes} {ps : List (Option Char)}
    (h : pieces bs = some c :: ps) :
    ∃ v form rest, Form v form ∧ c = Char.ofNat v ∧ bs = form ++ rest ∧ ps = pieces rest := by
  cases bs with
  | nil =>
    rw [pieces] at h
    cases h
  | cons a bs =>
    cases hl : Lead.ofByte? a with
    | none =>
      rw [pieces, hl] at h
      cases h
    | some l =>
      obtain ⟨hc, hps⟩ := List.cons.inj ((pieces_lead hl bs).symm.trans h)
      obtain ⟨v, hv, hcv⟩ := Option.map_eq_some_iff.mp hc
      obtain ⟨more, hf, hbs⟩ := form_of_follow hl hv
      exact ⟨v, a :: more, _, hf, hcv.symm, congrArg (a :: ·) hbs, hps.symm⟩

theorem pieces_encode (cs : List Char) : pieces (encode cs) = cs.map some := by
  induction cs with
  | nil => rw [encode, List.flatMap_nil, pieces, List.map_nil]
  | cons c cs ih =>
    rw [encode, List.flatMap_cons, pieces_form (.encodeChar c), Char.ofNat_toNat, List.map_cons]
    exact congrArg _ ih

theorem encode_of_pieces {cs : List Char} {bs : Bytes} (h : pieces bs = cs.map some) :
    bs = encode cs := by
  induction cs generalizing bs with
  | nil =>
    cases bs with
    | nil => rfl
    | cons a bs =>
      rw [pieces] at h
      split at h <;> cases h
  | cons c cs ih =>
    obtain ⟨v, form, rest, hf, rfl, rfl, hr⟩ := exists_form h
    rw [encode, List.flatMap_cons, ← hf.eq_encodeChar, ih hr.symm]
    rfl

theorem mapM_id_eq_some_iff {α : Type} {ps : List (Option α)} {xs : List α} :
    ps.mapM id = some xs ↔ ps = xs.map some := by
  induction ps generalizing xs with
  | nil => cases xs <;> simp
  | cons p ps ih =>
    rw [List.mapM_cons]
    cases p with
    | none => cases xs <;> simp
    | some y =>
      cases xs with
      | nil => cases ps.mapM id <;> simp
      | cons x xs =>
        rw [List.map_cons, List.cons.injEq, ← ih]
        cases ps.mapM id <;> simp

/-- Bytes are read as a text exactly if they are those of the text. -/
theorem decode?_eq_some_iff {bs : Bytes} {cs : List Char} :
    decode? bs = some cs ↔ bs = encode cs := by
  rw [decode?, mapM_id_eq_some_iff]
  exact ⟨encode_of_pieces, fun h ↦ h ▸ pieces_encode cs⟩

/-- A byte of ASCII stands for a character on its own. -/
theorem encodeChar_of_mem {b : UInt8} {c : Char} (hm : b ∈ String.utf8EncodeChar c)
    (hb : b.toNat < 0x80) : c = Char.ofNat b.toNat ∧ String.utf8EncodeChar c = [b] := by
  have hf := (Form.encodeChar c).eq_singleton hm hb
  exact ⟨by rw [← hf.1, Char.ofNat_toNat], hf.2⟩

theorem encode_append (cs ds : List Char) : encode (cs ++ ds) = encode cs ++ encode ds :=
  List.flatMap_append

theorem mem_of_mem_encode {b : UInt8} {cs : List Char} (hm : b ∈ encode cs) (hb : b.toNat < 0x80) :
    Char.ofNat b.toNat ∈ cs := by
  obtain ⟨c, hc, hm⟩ := List.mem_flatMap.mp hm
  rwa [← (encodeChar_of_mem hm hb).1]

/-- A byte of ASCII at the end of a text is its last character. -/
theorem decode?_concat {b : UInt8} (hb : b.toNat < 0x80) (bs : Bytes) :
    decode? (bs ++ [b]) = (decode? bs).map (· ++ [Char.ofNat b.toNat]) := by
  have hself : encode [Char.ofNat b.toNat] = [b] := by
    rw [encode, List.flatMap_singleton, ← (Form.one b hb).eq_encodeChar]
  ext cs
  rw [decode?_eq_some_iff, Option.map_eq_some_iff]
  constructor
  · intro h
    rcases List.eq_nil_or_concat cs with rfl | ⟨ds, c, rfl⟩
    · exact absurd h (List.append_ne_nil_of_right_ne_nil bs (List.cons_ne_nil b []))
    rw [List.concat_eq_append] at h ⊢
    rw [encode_append, encode, encode, List.flatMap_singleton] at h
    have hm : b ∈ String.utf8EncodeChar c := by
      have hl := congrArg List.getLast? h
      rw [List.getLast?_concat, List.getLast?_append_of_ne_nil _ (Form.encodeChar c).ne_nil] at hl
      exact List.mem_of_getLast? hl.symm
    obtain ⟨rfl, he⟩ := encodeChar_of_mem hm hb
    rw [he] at h
    exact ⟨ds, decode?_eq_some_iff.mpr (List.append_cancel_right h), rfl⟩
  · rintro ⟨ds, hd, rfl⟩
    rw [encode_append, ← decode?_eq_some_iff.mp hd, hself]

end Utf8

variable {c : Char} {cs ds before after : List Char} {n v : Nat}

def Blank (cs : List Char) : Prop := ∀ c ∈ cs, isBlank c = true

def Padded (ds cs : List Char) : Prop :=
  ∃ before after, Blank before ∧ Blank after ∧ cs = before ++ ds ++ after

theorem Padded.refl (cs : List Char) : Padded cs cs :=
  ⟨[], [], List.forall_mem_nil _, List.forall_mem_nil _, (List.append_nil cs).symm⟩

theorem trim_eq (cs : List Char) : trim cs = (cs.dropWhile isBlank).rdropWhile isBlank := rfl

theorem trim_append_left (h : Blank before) (cs : List Char) : trim (before ++ cs) = trim cs := by
  rw [trim_eq, List.dropWhile_append_of_pos h, trim_eq]

theorem trim_append_right (h : Blank after) (cs : List Char) : trim (cs ++ after) = trim cs := by
  have hr : ∀ c ∈ after.reverse, isBlank c = true := fun c hc ↦ h c (List.mem_reverse.mp hc)
  rw [trim_eq, List.dropWhile_append, trim_eq]
  cases hd : cs.dropWhile isBlank with
  | nil =>
    rw [List.isEmpty_nil, if_pos rfl, List.dropWhile_eq_nil_iff.mpr h]
  | cons c rest =>
    rw [List.isEmpty_cons, if_neg Bool.false_ne_true, List.rdropWhile, List.reverse_append,
      List.dropWhile_append_of_pos hr, List.rdropWhile]

theorem Padded.trim_eq (h : Padded ds cs) : trim cs = trim ds := by
  obtain ⟨before, after, hb, ha, rfl⟩ := h
  rw [trim_append_right ha, trim_append_left hb]

theorem padded_trim (cs : List Char) : Padded (trim cs) cs := by
  refine ⟨cs.takeWhile isBlank, (cs.dropWhile isBlank).rtakeWhile isBlank, ?_, ?_, ?_⟩
  · intro c hc
    exact List.mem_takeWhile_imp hc
  · intro c hc
    exact List.mem_rtakeWhile_imp hc
  · rw [trim_eq, List.append_assoc, List.rdropWhile_append_rtakeWhile,
      List.takeWhile_append_dropWhile]

/-- What is left of a text once the blank characters around it are taken away. -/
theorem trim_eq_iff : trim cs = ds ↔ Padded ds cs ∧ trim ds = ds := by
  constructor
  · rintro rfl
    exact ⟨padded_trim cs, (padded_trim cs).trim_eq.symm⟩
  · intro ⟨hp, hd⟩
    rw [hp.trim_eq, hd]

theorem trim_eq_self (h : ∀ c ∈ cs, isBlank c = false) : trim cs = cs := by
  have hd : cs.dropWhile isBlank = cs := by
    cases cs with
    | nil => rfl
    | cons c cs =>
      rw [List.dropWhile_cons_of_neg]
      simp [h c List.mem_cons_self]
  rw [trim_eq, hd, List.rdropWhile_eq_self_iff]
  intro hne
  simp [h _ (List.getLast_mem hne)]

theorem trim_eq_nil_iff : trim cs = [] ↔ Blank cs := by
  rw [trim_eq_iff]
  constructor
  · rintro ⟨⟨before, after, hb, ha, rfl⟩, -⟩
    rw [List.append_nil]
    exact List.forall_mem_append.mpr ⟨hb, ha⟩
  · intro h
    exact ⟨⟨cs, [], h, List.forall_mem_nil _, by rw [List.append_nil, List.append_nil]⟩, rfl⟩

def Numeral (n : Nat) (cs : List Char) : Prop :=
  ∃ ds, (cs = ds ∨ cs = '+' :: ds) ∧ ds ≠ [] ∧ (∀ c ∈ ds, c.isDigit = true) ∧
    Nat.ofDigitChars 10 ds 0 = n

theorem digitsFrom?_eq_some_iff :
    digitsFrom? v cs = some n ↔ (∀ c ∈ cs, c.isDigit = true) ∧ Nat.ofDigitChars 10 cs v = n := by
  induction cs generalizing v with
  | nil => simp [digitsFrom?]
  | cons c cs ih =>
    rw [digitsFrom?, digit?, List.forall_mem_cons, Nat.ofDigitChars_cons]
    by_cases hc : c.isDigit = true
    · rw [if_pos hc, Option.bind_some, ih]
      simp only [hc, true_and]
    · simp [hc]

theorem unsigned?_eq_some_iff : unsigned? cs = some n ↔
    cs ≠ [] ∧ (∀ c ∈ cs, c.isDigit = true) ∧ Nat.ofDigitChars 10 cs 0 = n := by
  cases cs with
  | nil => simp [unsigned?]
  | cons c cs =>
    rw [unsigned?, digitsFrom?_eq_some_iff]
    · simp
    · simp

theorem natural?_eq_some_iff : natural? cs = some n ↔ Numeral n cs := by
  have plus_not_digit : ('+' : Char).isDigit = false := rfl
  unfold natural?
  split
  case h_1 cs =>
    rw [unsigned?_eq_some_iff]
    constructor
    · intro h
      exact ⟨cs, .inr rfl, h⟩
    · rintro ⟨ds, rfl | hd, hne, hall, hn⟩
      · rw [List.forall_mem_cons, plus_not_digit] at hall
        cases hall.1
      · rw [(List.cons.inj hd).2]
        exact ⟨hne, hall, hn⟩
  case h_2 hno =>
    rw [unsigned?_eq_some_iff]
    constructor
    · intro h
      exact ⟨_, .inl rfl, h⟩
    · rintro ⟨ds, rfl | hd, hne, hall, hn⟩
      · exact ⟨hne, hall, hn⟩
      · exact absurd hd (hno ds)

theorem numeral_toDigits (n : Nat) : Numeral n (Nat.toDigits 10 n) :=
  ⟨_, .inl rfl, Nat.toDigits_ne_nil,
    fun _ hc ↦ Nat.isDigit_of_mem_toDigits (by decide) (by decide) hc,
    Nat.ofDigitChars_ten_toDigits⟩

theorem isBlank_of_isDigit (h : c.isDigit = true) : isBlank c = false := by
  have hd : 48 ≤ c.toNat ∧ c.toNat ≤ 57 := Char.isDigit_iff_toNat.mp h
  simp only [isBlank, blankRanges, List.any_cons, List.any_nil, Bool.or_eq_false_iff,
    Bool.and_eq_false_iff, decide_eq_false_iff_not, and_true]
  omega

theorem Numeral.trim_eq (h : Numeral n cs) : trim cs = cs := by
  obtain ⟨ds, hd, -, hall, -⟩ := h
  have hds : ∀ c ∈ ds, isBlank c = false := fun c hc ↦ isBlank_of_isDigit (hall c hc)
  apply trim_eq_self
  rcases hd with rfl | rfl
  · exact hds
  · exact List.forall_mem_cons.mpr ⟨rfl, hds⟩

end SdioWlan.Text
