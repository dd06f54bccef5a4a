import SdioWlan.Proofs.CommandFrame
import SdioWlan.Tlv

namespace SdioWlan

namespace Tlv

variable {format : Format} {buf rest : Bytes} {t : Tlv} {ts : List Tlv}

def Fits (t : Tlv) : Prop := t.payload.length < 0x10000

instance (t : Tlv) : Decidable t.Fits := inferInstanceAs (Decidable (_ < _))

def Encodable : Format → Tlv → Prop
  | .chip, t => t.Fits
  | .beacon, t => t.type.toNat < 0x100 ∧ t.payload.length < 0x100

def encodeAll (ts : List Tlv) : Bytes := ts.flatMap (encode .chip)

theorem length_encode (t : Tlv) : (t.encode .chip).length = 4 + t.payload.length := by
  simp only [encode, List.length_append, length_le16, length_leBytes]

theorem encodeAll_append (ts us : List Tlv) : encodeAll (ts ++ us) = encodeAll ts ++ encodeAll us :=
  List.flatMap_append

theorem length_encodeAll_nil : (encodeAll []).length = 0 := rfl

theorem length_encodeAll_cons (t : Tlv) (ts : List Tlv) :
    (encodeAll (t :: ts)).length = 4 + t.payload.length + (encodeAll ts).length := by
  rw [encodeAll, List.flatMap_cons, List.length_append, length_encode]
  rfl

/-- In a block that is short enough every element fits. -/
theorem fits_of_length (h : (encodeAll ts).length < 0x10000) : ∀ t ∈ ts, t.Fits := by
  induction ts with
  | nil => exact fun t ht ↦ by cases ht
  | cons u ts ih =>
    rw [encodeAll, List.flatMap_cons, List.length_append, length_encode] at h
    intro t ht
    rcases List.mem_cons.mp ht with rfl | ht
    · exact Nat.lt_of_le_of_lt (by omega) h
    · exact ih (Nat.lt_of_le_of_lt (by rw [encodeAll]; omega) h) t ht

theorem split?_encode (h : t.Fits) (rest : Bytes) :
    split? .chip (t.encode .chip ++ rest) = some (t, rest) := by
  have hn : leNat (leBytes 2 t.payload.length) = t.payload.length := leNat_leBytes 2 _ h
  have hl : (ofLe16 (UInt8.ofNat t.payload.length) (UInt8.ofNat (t.payload.length / 256))).toNat =
      t.payload.length := by
    simp only [leBytes] at hn
    rw [ofLe16, hn, UInt16.toNat_ofNat']
    exact Nat.mod_eq_of_lt h
  simp only [encode, le16_eq, leBytes, List.cons_append, List.nil_append, split?, split?.cut,
    ofLe16_le16, hl, List.take_left, if_true, List.drop_left]

theorem walk_of_split? (h : split? format buf = some (t, rest)) :
    walk format buf = ⟨t :: (walk format rest).elements, (walk format rest).tail⟩ := by
  rw [walk]
  split
  · rename_i hn
    rw [h] at hn
    cases hn
  · rename_i t' rest' hs
    rw [h] at hs
    cases hs
    rfl

theorem walk_of_not_split? (h : split? format buf = none) : walk format buf = ⟨[], buf⟩ := by
  rw [walk]
  split
  · rfl
  · rename_i hs
    rw [h] at hs
    cases hs

theorem walk_nil (format : Format) : walk format [] = ⟨[], []⟩ :=
  walk_of_not_split? (by cases format <;> rfl)

/-- An element that stands at the start of a buffer is the only one that encodes to what it takes
up of it. -/
theorem eq_encode_of_split? (h : split? .chip buf = some (t, rest)) :
    t.Fits ∧ buf = t.encode .chip ++ rest := by
  unfold split? at h
  split at h
  · rename_i t₀ t₁ n₀ n₁ body hf
    unfold split?.cut at h
    split at h
    · rename_i hn
      cases h
      have hlen : (body.take (ofLe16 n₀ n₁).toNat).length = leNat [n₀, n₁] := by
        rw [hn, toNat_ofLe16]
      refine ⟨?_, ?_⟩
      · show (body.take _).length < 0x10000
        rw [hn]
        exact (ofLe16 n₀ n₁).toNat_lt
      · have hb : leBytes 2 (leNat [n₀, n₁]) = [n₀, n₁] := leBytes_leNat [n₀, n₁]
        simp only [encode, hlen, hb, le16_ofLe16, List.cons_append, List.nil_append,
          List.take_append_drop]
    · cases h
  · rename_i hf
    cases hf
  · cases h

theorem split?_beacon_encode (ht : t.type.toNat < 0x100) (hp : t.payload.length < 0x100)
    (rest : Bytes) : split? .beacon (t.encode .beacon ++ rest) = some (t, rest) := by
  have hl : (UInt8.ofNat t.payload.length).toNat = t.payload.length := by
    rw [UInt8.toNat_ofNat']
    exact Nat.mod_eq_of_lt hp
  have hw : t.type.toUInt8.toUInt16 = t.type := by
    apply UInt16.toNat_inj.mp
    rw [UInt8.toNat_toUInt16, UInt16.toNat_toUInt8]
    exact Nat.mod_eq_of_lt ht
  simp only [encode, List.cons_append, List.nil_append, split?, split?.cut, hl, hw,
    List.take_left, if_true, List.drop_left]

theorem eq_encode_of_split?_beacon (h : split? .beacon buf = some (t, rest)) :
    Encodable .beacon t ∧ buf = t.encode .beacon ++ rest := by
  unfold split? at h
  split at h
  · rename_i hf
    cases hf
  · rename_i c n body hf
    unfold split?.cut at h
    split at h
    · rename_i hn
      cases h
      have ht : c.toUInt16.toUInt8 = c := UInt8.toUInt8_toUInt16 c
      have hl : UInt8.ofNat (body.take n.toNat).length = n := by
        rw [hn]
        exact UInt8.ofNat_toNat
      refine ⟨⟨?_, ?_⟩, ?_⟩
      · show c.toUInt16.toNat < 0x100
        rw [UInt8.toNat_toUInt16]
        exact c.toNat_lt
      · show (body.take n.toNat).length < 0x100
        rw [hn]
        exact n.toNat_lt
      · simp only [encode, ht, hl, List.cons_append, List.nil_append, List.take_append_drop]
    · cases h
  · cases h

/-- A string starts with an element exactly if it starts with the bytes of the element. -/
theorem split?_eq_some_iff :
    split? format buf = some (t, rest) ↔ Encodable format t ∧ buf = t.encode format ++ rest := by
  cases format with
  | chip =>
    constructor
    · intro h
      exact eq_encode_of_split? h
    · intro h
      rw [h.2]
      exact split?_encode h.1 rest
  | beacon =>
    constructor
    · intro h
      exact eq_encode_of_split?_beacon h
    · intro h
      rw [h.2]
      exact split?_beacon_encode h.1.1 h.1.2 rest

/-- What is read of a string, and what is left of it, are the string. -/
theorem walk_spec (format : Format) (buf : Bytes) :
    (∀ t ∈ (walk format buf).elements, Encodable format t) ∧
      buf = (walk format buf).elements.flatMap (encode format) ++ (walk format buf).tail ∧
      split? format (walk format buf).tail = none := by
  fun_induction walk format buf with
  | case1 buf hs => exact ⟨fun t ht ↦ (by cases ht), rfl, hs⟩
  | case2 buf t rest hs w ih =>
    obtain ⟨he, hb⟩ := split?_eq_some_iff.mp hs
    obtain ⟨hes, hrest, htail⟩ := ih
    refine ⟨List.forall_mem_cons.mpr ⟨he, hes⟩, ?_, htail⟩
    rw [List.flatMap_cons, List.append_assoc, ← hrest]
    exact hb

theorem walk_flatMap_encode (h : ∀ t ∈ ts, Encodable format t) (rest : Bytes) :
    walk format (ts.flatMap (encode format) ++ rest) =
      ⟨ts ++ (walk format rest).elements, (walk format rest).tail⟩ := by
  induction ts with
  | nil => rfl
  | cons t ts ih =>
    obtain ⟨ht, hts⟩ := List.forall_mem_cons.mp h
    have hs : split? format ((t :: ts).flatMap (encode format) ++ rest) =
        some (t, ts.flatMap (encode format) ++ rest) :=
      split?_eq_some_iff.mpr ⟨ht, by rw [List.flatMap_cons, List.append_assoc]⟩
    rw [walk_of_split? hs, ih hts]
    rfl

/-- A string is read as certain elements exactly if it consists of their bytes. -/
theorem parse_eq_ok_iff_encode : parse format buf = .ok ts ↔
    (∀ t ∈ ts, Encodable format t) ∧ buf = ts.flatMap (encode format) := by
  constructor
  · intro h
    obtain ⟨he, hb, -⟩ := walk_spec format buf
    simp only [parse] at h
    split at h
    · rename_i ht
      cases h
      rw [ht, List.append_nil] at hb
      exact ⟨he, hb⟩
    · cases h
  · intro h
    have hw := walk_flatMap_encode h.1 []
    rw [List.append_nil, ← h.2, walk_nil, List.append_nil] at hw
    simp only [parse, hw, if_true]

theorem parse_eq_ok_iff : parse .chip buf = .ok ts ↔ (∀ t ∈ ts, t.Fits) ∧ buf = encodeAll ts :=
  parse_eq_ok_iff_encode

theorem parse_encodeAll (h : ∀ t ∈ ts, t.Fits) : parse .chip (encodeAll ts) = .ok ts :=
  parse_eq_ok_iff.mpr ⟨h, rfl⟩

namespace Block

theorem push_of_fits {t : Tlv} (h : t.Fits) (b : Block) :
    b.push t = .ok ⟨b.bytes ++ t.encode .chip⟩ := if_pos h

theorem pushAll_of_fits {ts : List Tlv} (h : ∀ t ∈ ts, t.Fits) (b : Block) :
    b.pushAll ts = (.ok (), ⟨b.bytes ++ encodeAll ts⟩) := by
  induction ts generalizing b with
  | nil => simp only [pushAll, encodeAll, List.flatMap_nil, List.append_nil]
  | cons t ts ih =>
    simp only [pushAll, push_of_fits (h t List.mem_cons_self),
      ih fun u hu ↦ h u (List.mem_cons_of_mem t hu), encodeAll, List.flatMap_cons,
      List.append_assoc]

theorem foldlM_of_fits {ts : List Tlv} (h : ∀ t ∈ ts, t.Fits) (b : Block) :
    ts.foldlM push b = .ok ⟨b.bytes ++ encodeAll ts⟩ := by
  induction ts generalizing b with
  | nil => simp only [List.foldlM_nil, encodeAll, List.flatMap_nil, List.append_nil, pure,
      Except.pure]
  | cons t ts ih =>
    simp only [List.foldlM_cons, push_of_fits (h t List.mem_cons_self), bind, Except.bind,
      ih fun u hu ↦ h u (List.mem_cons_of_mem t hu), encodeAll, List.flatMap_cons,
      List.append_assoc]

theorem ofList_of_fits {ts : List Tlv} (h : ∀ t ∈ ts, t.Fits) : ofList ts = .ok ⟨encodeAll ts⟩ :=
  foldlM_of_fits h {}

end Block

end Tlv

end SdioWlan
