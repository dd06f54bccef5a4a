import SdioWlan.Config
import SdioWlan.Proofs.Text

namespace SdioWlan.Config

open Text (Blank Padded Numeral)

inductive Value
  | number (n : Nat)
  | name (s : String)
  deriving DecidableEq, Repr

/-- The bytes are the value, with blank characters around it or none. -/
def Value.Spelled : Value → Bytes → Prop
  | number n, v => ∃ ds cs, Numeral n ds ∧ Padded ds cs ∧ v = Text.Utf8.encode cs
  | name s, v => ∃ cs, Padded s.toList cs ∧ v = Text.Utf8.encode cs

def Value.text : Value → Bytes
  | number n => Text.Utf8.encode (Nat.toDigits 10 n)
  | name s => Text.Utf8.encode s.toList

def get (c : Config) : Tag → Value
  | .writePortTries => .number c.writePortTries.toNat
  | .chunkReadyTries => .number c.chunkReadyTries.toNat
  | .firmwareReadyTries => .number c.firmwareReadyTries.toNat
  | .spinMicros => .number c.spinMicros.toNat
  | .scanTime => .number c.scanTime.toNat
  | .retryLimit => .number c.retryLimit.toNat
  | .firmwareName => .name c.firmwareName

def reset (c : Config) : Tag → Config
  | .writePortTries => { c with writePortTries := ({} : Config).writePortTries }
  | .chunkReadyTries => { c with chunkReadyTries := ({} : Config).chunkReadyTries }
  | .firmwareReadyTries => { c with firmwareReadyTries := ({} : Config).firmwareReadyTries }
  | .spinMicros => { c with spinMicros := ({} : Config).spinMicros }
  | .scanTime => { c with scanTime := ({} : Config).scanTime }
  | .retryLimit => { c with retryLimit := ({} : Config).retryLimit }
  | .firmwareName => { c with firmwareName := ({} : Config).firmwareName }

namespace Tag

def bits? : Tag → Option Nat
  | writePortTries | chunkReadyTries | firmwareReadyTries | spinMicros => some 32
  | scanTime => some 16
  | retryLimit => some 8
  | firmwareName => none

/-- The bytes are nothing that the setting can be: no number in decimal that has room, and for a
name no text but a blank one. -/
def Unreadable (tag : Tag) (v : Bytes) : Prop :=
  match tag.bits? with
  | some b => ∀ n < Nat.pow 2 b, ¬ (Value.number n).Spelled v
  | none => ∀ cs, v = Text.Utf8.encode cs → Blank cs

def Fits (tag : Tag) (x : Value) : Prop :=
  match tag.bits?, x with
  | some b, .number n => n < Nat.pow 2 b
  | none, .name s => s.toList ≠ [] ∧ Text.trim s.toList = s.toList
  | _, _ => False

def read? (tag : Tag) (v : Bytes) : Option Value :=
  let text := (Text.Utf8.decode? v).map Text.trim
  match tag.bits? with
  | some b => ((text.bind Text.natural?).filter (· < Nat.pow 2 b)).map .number
  | none => (text.filter (· ≠ [])).map fun cs ↦ .name (String.ofList cs)

end Tag

inductive Line
  | setting (tag : Tag) (value : Bytes) (crlf : Bool)
  | other (bytes : Bytes)
  deriving DecidableEq

namespace Line

def bytes : Line → Bytes
  | setting tag v crlf => tag.start ++ v ++ if crlf then [carriageReturn] else []
  | other bs => bs

def tag? : Line → Option Tag
  | setting tag _ _ => some tag
  | other _ => none

def value? (tag : Tag) : Line → Option Bytes
  | setting t v _ => if t = tag then some v else none
  | other _ => none

/-- It is one line only, and a line that is for no setting does not look like one. -/
def Sound : Line → Prop
  | setting _ v _ => lineFeed ∉ v
  | other bs => lineFeed ∉ bs ∧ ∀ tag : Tag, ¬ tag.start <+: bs

end Line

/-- A text of lines. One that ends with a line feed has an empty last line. -/
def joined (ls : List Line) : Bytes := [lineFeed].intercalate (ls.map Line.bytes)

def written (c : Config) : List Line :=
  [.writePortTries, .chunkReadyTries, .firmwareReadyTries, .spinMicros, .scanTime, .retryLimit,
    .firmwareName].map fun tag : Tag ↦ .setting tag (c.get tag).text false

/-- The lines have each of the settings once, spelled as it is. -/
structure Writes (c : Config) (ls : List Line) : Prop where
  sound : ∀ l ∈ ls, l.Sound
  once : ∀ tag, (ls.filterMap Line.tag?).count tag = 1
  spelled : ∀ tag v crlf, .setting tag v crlf ∈ ls → (c.get tag).Spelled v

variable {c d : Config} {tag : Tag} {l : Line} {ls before after : List Line} {v : Bytes} {x : Value}

namespace Tag

/-- A value is read exactly if the setting can be it and the bytes spell it. -/
theorem read?_eq_some_iff : tag.read? v = some x ↔ tag.Fits x ∧ x.Spelled v := by
  unfold read? Fits
  cases tag.bits? with
  | some b =>
    simp only [Option.map_eq_some_iff, Option.filter_eq_some_iff, Option.bind_eq_some_iff,
      Text.Utf8.decode?_eq_some_iff, Text.natural?_eq_some_iff, decide_eq_true_eq]
    constructor
    · rintro ⟨n, ⟨⟨ds, ⟨cs, rfl, rfl⟩, hn⟩, hlt⟩, rfl⟩
      exact ⟨hlt, _, cs, hn, Text.padded_trim cs, rfl⟩
    · intro ⟨hlt, hs⟩
      cases x with
      | number n =>
        obtain ⟨ds, cs, hn, hp, rfl⟩ := hs
        refine ⟨n, ⟨⟨ds, ⟨cs, rfl, ?_⟩, hn⟩, hlt⟩, rfl⟩
        exact Text.trim_eq_iff.mpr ⟨hp, hn.trim_eq⟩
      | name s => exact hlt.elim
  | none =>
    simp only [Option.map_eq_some_iff, Option.filter_eq_some_iff,
      Text.Utf8.decode?_eq_some_iff, decide_eq_true_eq]
    constructor
    · rintro ⟨ds, ⟨⟨cs, rfl, rfl⟩, hne⟩, rfl⟩
      have hp := Text.padded_trim cs
      refine ⟨?_, cs, ?_, rfl⟩
      · simp only [String.toList_ofList]
        exact ⟨hne, hp.trim_eq.symm⟩
      · rwa [String.toList_ofList]
    · intro ⟨hf, hs⟩
      cases x with
      | number n => exact hf.elim
      | name s =>
        obtain ⟨cs, hp, rfl⟩ := hs
        exact ⟨s.toList, ⟨⟨cs, rfl, Text.trim_eq_iff.mpr ⟨hp, hf.2⟩⟩, hf.1⟩,
          congrArg Value.name (String.ofList_toList)⟩

theorem read?_of_unreadable (h : tag.Unreadable v) : tag.read? v = none := by
  rw [Option.eq_none_iff_forall_ne_some]
  intro x hx
  obtain ⟨hf, hs⟩ := read?_eq_some_iff.mp hx
  unfold Unreadable at h
  unfold Fits at hf
  cases hb : tag.bits? with
  | some b =>
    rw [hb] at h hf
    cases x with
    | number n => exact h n hf hs
    | name s => exact hf
  | none =>
    rw [hb] at h hf
    cases x with
    | number n => exact hf
    | name s =>
      obtain ⟨cs, hp, rfl⟩ := hs
      apply hf.1
      rw [← hf.2, ← hp.trim_eq]
      exact Text.trim_eq_nil_iff.mpr (h cs rfl)

/-- A carriage return is blank, so that a value is the same with it and without it. -/
theorem read?_concat_return (tag : Tag) (v : Bytes) :
    tag.read? (v ++ [carriageReturn]) = tag.read? v := by
  have hblank : Blank [Char.ofNat carriageReturn.toNat] := by
    intro c hc
    rw [List.mem_singleton.mp hc]
    rfl
  have htrim : (Text.Utf8.decode? (v ++ [carriageReturn])).map Text.trim =
      (Text.Utf8.decode? v).map Text.trim := by
    rw [Text.Utf8.decode?_concat (by decide), Option.map_map]
    congr 1
    funext cs
    exact Text.trim_append_right hblank cs
  unfold read?
  rw [htrim]

theorem read?_withoutReturn (tag : Tag) (v : Bytes) :
    tag.read? (withoutReturn v) = tag.read? v := by
  unfold withoutReturn
  split_ifs with h
  · obtain ⟨w, rfl⟩ := List.getLast?_eq_some_iff.mp h
    rw [List.dropLast_concat, read?_concat_return]
  · rfl

end Tag

theorem ext_get (h : ∀ tag, c.get tag = d.get tag) : c = d := by
  have h1 := h .writePortTries
  have h2 := h .chunkReadyTries
  have h3 := h .firmwareReadyTries
  have h4 := h .spinMicros
  have h5 := h .scanTime
  have h6 := h .retryLimit
  have h7 := h .firmwareName
  simp only [get, Value.number.injEq, Value.name.injEq, UInt32.toNat_inj, UInt16.toNat_inj,
    UInt8.toNat_inj] at h1 h2 h3 h4 h5 h6 h7
  cases c
  cases d
  simp_all

theorem get_reset (c : Config) (tag t : Tag) :
    (c.reset tag).get t = if t = tag then ({} : Config).get t else c.get t := by
  cases tag <;> cases t <;> rfl

theorem lineFeed_not_mem_start (tag : Tag) : lineFeed ∉ tag.start := by
  cases tag <;> decide

theorem start_unique {t tag : Tag} (h : t ≠ tag) (v : Bytes) :
    ¬ tag.start <+: t.start ++ v := by
  have hstart : ∀ t tag : Tag, t ≠ tag → ¬ tag.start <+: t.start := by
    intro t tag
    cases t <;> cases tag <;> decide
  intro hp
  rcases List.prefix_or_prefix_of_prefix hp (List.prefix_append t.start v) with hs | hs
  · exact hstart t tag h hs
  · exact hstart tag t (Ne.symm h) hs

theorem lines_eq_splitOn (bs : Bytes) : lines bs = bs.splitOn lineFeed := by
  induction bs with
  | nil => rfl
  | cons b bs ih =>
    rw [lines, List.splitOn_cons_eq_if_modifyHead, ih]
    by_cases hb : b = lineFeed
    · rw [if_pos hb, if_pos (beq_iff_eq.mpr hb)]
    · rw [if_neg hb, if_neg (mt beq_iff_eq.mp hb)]
      cases hs : bs.splitOn lineFeed with
      | nil => exact absurd hs (List.splitOn_ne_nil _ _)
      | cons l ls => rfl

theorem Line.Sound.lineFeed_not_mem (h : l.Sound) : lineFeed ∉ l.bytes := by
  cases l with
  | setting t v crlf =>
    have hend : lineFeed ∉ if crlf then [carriageReturn] else [] := by
      cases crlf <;> decide
    rw [Line.bytes, List.mem_append, List.mem_append]
    rintro ((hm | hm) | hm)
    · exact lineFeed_not_mem_start t hm
    · exact h hm
    · exact hend hm
  | other bs => exact h.1

theorem lines_joined (hne : ls ≠ []) (h : ∀ l ∈ ls, l.Sound) :
    lines (joined ls) = ls.map Line.bytes := by
  rw [lines_eq_splitOn]
  apply List.splitOn_intercalate
  · intro bs hbs
    obtain ⟨l, hl, rfl⟩ := List.mem_map.mp hbs
    exact (h l hl).lineFeed_not_mem
  · exact fun hnil ↦ hne (List.map_eq_nil_iff.mp hnil)

theorem isPrefixOf?_eq_none {start bs : Bytes} (h : ¬ start <+: bs) :
    start.isPrefixOf? bs = none := by
  rw [Option.eq_none_iff_forall_ne_some]
  intro rest hr
  exact h ⟨rest, List.isPrefixOf?_eq_some_iff_append_eq.mp hr⟩

/-- A line that is searched for a setting is read as what it says of the setting. -/
theorem read?_line (h : l.Sound) (tag : Tag) :
    (tag.start.isPrefixOf? l.bytes).map (tag.read? ∘ withoutReturn) =
      (l.value? tag).map tag.read? := by
  cases l with
  | setting t v crlf =>
    rw [Line.bytes, Line.value?, List.append_assoc]
    by_cases ht : t = tag
    · subst ht
      rw [List.isPrefixOf?_eq_some_iff_append_eq.mpr rfl, if_pos rfl, Option.map_some,
        Option.map_some, Function.comp_apply, Tag.read?_withoutReturn]
      cases crlf with
      | true => rw [if_pos rfl, Tag.read?_concat_return]
      | false => rw [if_neg Bool.false_ne_true, List.append_nil]
    · rw [isPrefixOf?_eq_none (start_unique ht _), if_neg ht]
      rfl
  | other bs =>
    rw [Line.bytes, isPrefixOf?_eq_none (h.2 tag)]
    rfl

def said? (ls : List Line) (tag : Tag) : Option Value :=
  (ls.findSome? (Line.value? tag)).bind tag.read?

theorem map_findSome?_start (h : ∀ l ∈ ls, l.Sound) (tag : Tag) :
    ((ls.map Line.bytes).findSome? tag.start.isPrefixOf?).map (tag.read? ∘ withoutReturn) =
      (ls.findSome? (Line.value? tag)).map tag.read? := by
  induction ls with
  | nil => rfl
  | cons l ls ih =>
    obtain ⟨hl, hls⟩ := List.forall_mem_cons.mp h
    have hr := read?_line hl tag
    rw [List.map_cons, List.findSome?_cons, List.findSome?_cons]
    cases hs : tag.start.isPrefixOf? l.bytes with
    | none =>
      rw [hs, Option.map_none, eq_comm, Option.map_eq_none_iff] at hr
      rw [hr]
      exact ih hls
    | some w =>
      rw [hs, Option.map_some, eq_comm, Option.map_eq_some_iff] at hr
      obtain ⟨v, hv, hw⟩ := hr
      rw [hv, Option.map_some, Option.map_some, hw]

theorem bind_value? (h : ∀ l ∈ ls, l.Sound) (tag : Tag) :
    (value? (ls.map Line.bytes) tag).bind tag.read? = said? ls tag := by
  have hm := congrArg (Option.bind · id) (map_findSome?_start h tag)
  rw [Option.bind_map, Option.bind_map] at hm
  rw [value?, Option.bind_map]
  exact hm

theorem bind_read?_number {b : Nat} (hb : tag.bits? = some b) (bs : List Bytes) :
    (value? bs tag).bind tag.read? = (number? bs tag b).map .number := by
  unfold number? text? Tag.read?
  rw [hb]
  cases value? bs tag with
  | none => rfl
  | some v =>
    cases hv : Text.Utf8.decode? v <;> simp [hv]

theorem bind_read?_name (hb : tag.bits? = none) (bs : List Bytes) :
    (value? bs tag).bind tag.read? =
      ((text? bs tag).filter (· ≠ [])).map fun cs ↦ .name (String.ofList cs) := by
  unfold text? Tag.read?
  rw [hb]
  cases value? bs tag with
  | none => rfl
  | some v =>
    cases hv : Text.Utf8.decode? v <;> simp [hv]

/-- A number that is read fits in the word that holds it. -/
theorem number_field {α : Type} {b : Nat} (hb : tag.bits? = some b) (toNat : α → Nat)
    (ofNat : Nat → α) (hinv : ∀ n < Nat.pow 2 b, toNat (ofNat n) = n) (bs : List Bytes)
    (standard : α) :
    .number (toNat ((number? bs tag b).elim standard ofNat)) =
      ((value? bs tag).bind tag.read?).getD (.number (toNat standard)) := by
  rw [bind_read?_number hb]
  cases hn : number? bs tag b with
  | none => rfl
  | some n =>
    have hlt : n < Nat.pow 2 b := of_decide_eq_true (Option.filter_eq_some_iff.mp hn).2
    exact congrArg Value.number (hinv n hlt)

theorem get_ofLines (bs : List Bytes) (tag : Tag) :
    (ofLines bs).get tag = ((value? bs tag).bind tag.read?).getD (({} : Config).get tag) := by
  have word {tag : Tag} (hb : tag.bits? = some 32) (standard : UInt32) :=
    number_field hb UInt32.toNat UInt32.ofNat (fun _ ↦ UInt32.toNat_ofNat_of_lt) bs standard
  cases tag with
  | writePortTries => exact word rfl _
  | chunkReadyTries => exact word rfl _
  | firmwareReadyTries => exact word rfl _
  | spinMicros => exact word rfl _
  | scanTime => exact number_field rfl _ _ (fun _ ↦ UInt16.toNat_ofNat_of_lt) bs _
  | retryLimit => exact number_field rfl _ _ (fun _ ↦ UInt8.toNat_ofNat_of_lt) bs _
  | firmwareName =>
    rw [bind_read?_name rfl, get, ofLines]
    cases (text? bs .firmwareName).filter (· ≠ []) <;> rfl

theorem get_parse (h : ∀ l ∈ ls, l.Sound) (tag : Tag) :
    (parse (joined ls)).get tag = (said? ls tag).getD (({} : Config).get tag) := by
  by_cases hne : ls = []
  · subst hne
    rfl
  · rw [parse, get_ofLines, lines_joined hne h, bind_value? h]

theorem filterMap_setting (tag : Tag) (v : Bytes) (crlf : Bool) (ls : List Line) :
    (.setting tag v crlf :: ls).filterMap Line.tag? = tag :: ls.filterMap Line.tag? := rfl

theorem exists_setting (h : tag ∈ ls.filterMap Line.tag?) : ∃ v crlf, .setting tag v crlf ∈ ls := by
  obtain ⟨l, hl, ht⟩ := List.mem_filterMap.mp h
  cases l with
  | setting t v crlf =>
    obtain rfl : t = tag := Option.some.inj ht
    exact ⟨v, crlf, hl⟩
  | other bs => cases ht

theorem findSome?_eq_none_iff :
    ls.findSome? (Line.value? tag) = none ↔ tag ∉ ls.filterMap Line.tag? := by
  rw [List.findSome?_eq_none_iff]
  constructor
  · intro h hm
    obtain ⟨v, crlf, hl⟩ := exists_setting hm
    have hn := h _ hl
    rw [Line.value?, if_pos rfl] at hn
    cases hn
  · intro h l hl
    cases l with
    | setting t v crlf =>
      rw [Line.value?, if_neg]
      rintro rfl
      exact h (List.mem_filterMap.mpr ⟨_, hl, rfl⟩)
    | other bs => rfl

theorem said?_of_absent (h : tag ∉ ls.filterMap Line.tag?) : said? ls tag = none := by
  rw [said?, findSome?_eq_none_iff.mpr h, Option.bind_none]

theorem said?_of_first (h : tag ∉ before.filterMap Line.tag?) (v : Bytes) (crlf : Bool)
    (after : List Line) : said? (before ++ .setting tag v crlf :: after) tag = tag.read? v := by
  rw [said?, List.findSome?_append, findSome?_eq_none_iff.mpr h, Option.none_or,
    List.findSome?_cons, Line.value?, if_pos rfl, Option.bind_some]

/-- A line says nothing of the other settings. -/
theorem said?_of_ne {t : Tag} (h : t ≠ tag) (before after : List Line) (v : Bytes) (crlf : Bool) :
    said? (before ++ .setting tag v crlf :: after) t = said? (before ++ after) t := by
  rw [said?, List.findSome?_append, List.findSome?_cons, Line.value?, if_neg (Ne.symm h), said?,
    List.findSome?_append]

/-- Only the first line for a setting counts. -/
theorem said?_of_later (h : tag ∈ before.filterMap Line.tag?) (v : Bytes) (crlf : Bool)
    (after : List Line) :
    said? (before ++ .setting tag v crlf :: after) = said? (before ++ after) := by
  funext t
  by_cases ht : t = tag
  · subst ht
    obtain ⟨w, hw⟩ := Option.ne_none_iff_exists'.mp (mt findSome?_eq_none_iff.mp (not_not.mpr h))
    simp only [said?, List.findSome?_append, hw, Option.some_or]
  · exact said?_of_ne ht before after v crlf

theorem Value.spelled_text (x : Value) : x.Spelled x.text := by
  cases x with
  | number n => exact ⟨_, _, Text.numeral_toDigits n, .refl _, rfl⟩
  | name s => exact ⟨_, .refl _, rfl⟩

namespace Writes

theorem mem (h : c.Writes ls) (tag : Tag) : tag ∈ ls.filterMap Line.tag? := by
  apply List.count_pos_iff.mp
  rw [h.once]
  exact Nat.one_pos

/-- Around the line for a setting there is no other one for it. -/
theorem not_mem {crlf : Bool} (h : c.Writes (before ++ .setting tag v crlf :: after)) :
    tag ∉ before.filterMap Line.tag? ∧ tag ∉ after.filterMap Line.tag? := by
  have ho := h.once tag
  rw [List.filterMap_append, filterMap_setting, List.count_append, List.count_cons_self] at ho
  rw [← List.count_eq_zero, ← List.count_eq_zero]
  omega

theorem said?_eq (h : c.Writes ls) (hf : tag.Fits (c.get tag)) :
    said? ls tag = some (c.get tag) := by
  obtain ⟨v, crlf, hl⟩ := exists_setting (h.mem tag)
  have hs := h.spelled tag v crlf hl
  obtain ⟨before, after, rfl⟩ := List.append_of_mem hl
  rw [said?_of_first h.not_mem.1]
  exact Tag.read?_eq_some_iff.mpr ⟨hf, hs⟩

end Writes

theorem fits_get (hne : c.firmwareName ≠ "")
    (htrim : Text.trim c.firmwareName.toList = c.firmwareName.toList) (tag : Tag) :
    tag.Fits (c.get tag) := by
  cases tag with
  | writePortTries => exact c.writePortTries.toNat_lt
  | chunkReadyTries => exact c.chunkReadyTries.toNat_lt
  | firmwareReadyTries => exact c.firmwareReadyTries.toNat_lt
  | spinMicros => exact c.spinMicros.toNat_lt
  | scanTime => exact c.scanTime.toNat_lt
  | retryLimit => exact c.retryLimit.toNat_lt
  | firmwareName => exact ⟨mt String.toList_eq_nil_iff.mp hne, htrim⟩

theorem lineFeed_not_mem_text (hlf : '\n' ∉ c.firmwareName.toList) (tag : Tag) :
    lineFeed ∉ (c.get tag).text := by
  have hnumber (n : Nat) : '\n' ∉ Nat.toDigits 10 n := by
    intro hm
    have hd := Nat.isDigit_of_mem_toDigits (by decide) (by decide) hm
    cases hd
  have hencode {cs : List Char} (h : '\n' ∉ cs) : lineFeed ∉ Text.Utf8.encode cs :=
    fun hm ↦ h (Text.Utf8.mem_of_mem_encode hm (by decide))
  cases tag with
  | firmwareName => exact hencode hlf
  | _ => exact hencode (hnumber _)

theorem writes_written (hlf : '\n' ∉ c.firmwareName.toList) : c.Writes c.written where
  sound l hl := by
    obtain ⟨tag, -, rfl⟩ := List.mem_map.mp hl
    exact lineFeed_not_mem_text hlf tag
  once tag := by
    cases tag <;> rfl
  spelled tag v crlf hl := by
    obtain ⟨t, -, ht⟩ := List.mem_map.mp hl
    cases ht
    exact (c.get tag).spelled_text

/-- The first line for one setting is missing or spoilt, and those for the others are not. -/
theorem parse_eq_reset (h : ∀ l ∈ ls, l.Sound) (hself : said? ls tag = none)
    (hrest : ∀ t, t ≠ tag → said? ls t = some (c.get t)) : parse (joined ls) = c.reset tag := by
  apply ext_get
  intro t
  rw [get_parse h, get_reset]
  by_cases ht : t = tag
  · rw [if_pos ht, ht, hself, Option.getD_none]
  · rw [if_neg ht, hrest t ht, Option.getD_some]

/-- Settings are read back from every text that has a line for each of them, in any order and
between any other lines, and they can be written as such a text. Without its line, or with one that
spells nothing it can be, a setting is at its default, and the others are as before. Once there is a
line for a setting, a further one for it changes nothing. -/
theorem settings_read_back (c : Config) (hne : c.firmwareName ≠ "")
    (hlf : '\n' ∉ c.firmwareName.toList)
    (htrim : Text.trim c.firmwareName.toList = c.firmwareName.toList) :
    c.Writes c.written ∧
      (∀ ls, c.Writes ls → parse (joined ls) = c) ∧
      (∀ before tag v crlf after, c.Writes (before ++ .setting tag v crlf :: after) →
        parse (joined (before ++ after)) = c.reset tag ∧
          ∀ w e, lineFeed ∉ w → tag.Unreadable w →
            parse (joined (before ++ .setting tag w e :: after)) = c.reset tag) ∧
      ∀ before tag v crlf after, (∀ l ∈ before ++ .setting tag v crlf :: after, l.Sound) →
        tag ∈ before.filterMap Line.tag? →
          parse (joined (before ++ .setting tag v crlf :: after)) =
            parse (joined (before ++ after)) := by
  have hfits := fits_get hne htrim
  refine ⟨writes_written hlf, fun ls h ↦ ?_, fun before tag v crlf after h ↦ ?_,
    fun before tag v crlf after h hm ↦ ?_⟩
  · apply ext_get
    intro t
    rw [get_parse h.sound, h.said?_eq (hfits t), Option.getD_some]
  · obtain ⟨hb, ha⟩ := List.forall_mem_append.mp h.sound
    have ha := (List.forall_mem_cons.mp ha).2
    obtain ⟨hnb, hna⟩ := h.not_mem
    have hrest (t : Tag) (ht : t ≠ tag) : said? (before ++ after) t = some (c.get t) := by
      rw [← said?_of_ne ht before after v crlf, h.said?_eq (hfits t)]
    constructor
    · apply parse_eq_reset (List.forall_mem_append.mpr ⟨hb, ha⟩) _ hrest
      apply said?_of_absent
      rw [List.filterMap_append, List.mem_append]
      exact not_or.mpr ⟨hnb, hna⟩
    · intro w e hw hu
      have hs : ∀ l ∈ before ++ .setting tag w e :: after, l.Sound :=
        List.forall_mem_append.mpr ⟨hb, List.forall_mem_cons.mpr ⟨hw, ha⟩⟩
      apply parse_eq_reset hs
      · rw [said?_of_first hnb, Tag.read?_of_unreadable hu]
      · intro t ht
        rw [said?_of_ne ht, hrest t ht]
  · obtain ⟨hb, ha⟩ := List.forall_mem_append.mp h
    have hs := List.forall_mem_append.mpr ⟨hb, (List.forall_mem_cons.mp ha).2⟩
    apply ext_get
    intro t
    rw [get_parse h, get_parse hs, said?_of_later hm]

/-- Without the line for the number of retries it is zero again, and likewise with one that asks for
300 of them. A second name for the firmware does not count. -/
theorem settings_read_back_testBin :
    let c : Config := { retryLimit := 3, firmwareName := "test.bin" }
    let before := c.written.take 5
    let after := c.written.drop 6
    (c.firmwareName ≠ "" ∧ '\n' ∉ c.firmwareName.toList ∧
      Text.trim c.firmwareName.toList = c.firmwareName.toList) ∧
      parse (joined c.written) = c ∧
      parse (joined (before ++ after)) = c.reset .retryLimit ∧
      parse (joined (before ++ .setting .retryLimit [0x33, 0x30, 0x30] true :: after)) =
        c.reset .retryLimit ∧
      parse (joined (c.written ++ [.setting .firmwareName [0x78] false])) = c := by
  intro c before after
  have hc : c.firmwareName ≠ "" ∧ '\n' ∉ c.firmwareName.toList ∧
      Text.trim c.firmwareName.toList = c.firmwareName.toList := by decide
  obtain ⟨hw, hread, hreset, hlater⟩ := settings_read_back c hc.1 hc.2.1 hc.2.2
  have hsplit : c.written = before ++ .setting .retryLimit [0x33] false :: after := by decide
  have hu : Tag.retryLimit.Unreadable [0x33, 0x30, 0x30] := by
    intro n hn hs
    have hr : Tag.retryLimit.read? [0x33, 0x30, 0x30] = some (.number n) :=
      Tag.read?_eq_some_iff.mpr ⟨hn, hs⟩
    have hd : Text.Utf8.decode? [0x33, 0x30, 0x30] = some ['3', '0', '0'] :=
      Text.Utf8.decode?_eq_some_iff.mpr (by decide)
    rw [Tag.read?, hd] at hr
    cases hr
  have hx : lineFeed ∉ [0x78] := by decide
  have hsound : ∀ l ∈ c.written ++ .setting .firmwareName [0x78] false :: [], l.Sound :=
    List.forall_mem_append.mpr ⟨hw.sound, List.forall_mem_singleton.mpr hx⟩
  have hnamed := hlater c.written .firmwareName [0x78] false [] hsound (hw.mem _)
  obtain ⟨hgone, hspoilt⟩ := hreset before .retryLimit [0x33] false after (hsplit ▸ hw)
  refine ⟨hc, hread _ hw, hgone, hspoilt _ true (by decide) hu, ?_⟩
  rw [hnamed, List.append_nil, hread _ hw]

/-- A line of the default settings. -/
example : (({} : Config).written.map Line.bytes)[4]? =
    some (Text.Utf8.encode "SCAN_MAX_TIME=200".toList) := by
  decide

end SdioWlan.Config
