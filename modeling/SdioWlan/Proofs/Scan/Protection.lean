import SdioWlan.Proofs.AssociationFrame
import SdioWlan.Proofs.Scan.Beacon

namespace SdioWlan

open Dot11 (Element)

namespace Dot11

theorem isWpaElement_iff {payload : Bytes} :
    isWpaElement payload ↔ [0x00, 0x50, 0xF2, 0x01] <+: payload := by
  rw [isWpaElement, beq_iff_eq, List.prefix_iff_eq_take]
  exact eq_comm

namespace Element

theorem mem_payloads {id : ElementId} {es : List Element} {p : Bytes} :
    p ∈ payloads id es ↔ ∃ e ∈ es, e.id = id.code ∧ e.payload = p := by
  simp only [payloads, List.mem_map, List.mem_filter, decide_eq_true_eq, and_assoc]

theorem payloads_ne_nil_iff {id : ElementId} {es : List Element} :
    payloads id es ≠ [] ↔ ∃ e ∈ es, e.id = id.code := by
  constructor
  · intro h
    obtain ⟨p, hp⟩ := List.exists_mem_of_ne_nil _ h
    obtain ⟨e, he, hi, -⟩ := mem_payloads.mp hp
    exact ⟨e, he, hi⟩
  · rintro ⟨e, he, hi⟩
    exact List.ne_nil_of_mem (mem_payloads.mpr ⟨e, he, hi, rfl⟩)

theorem length_of_mem_payloads {id : ElementId} {es : List Element} {p : Bytes}
    (h : p ∈ payloads id es) : p.length < 0x100 := by
  obtain ⟨e, -, -, rfl⟩ := mem_payloads.mp h
  exact e.short

inductive CutShort : Bytes → Prop
  | header (id : UInt8) : CutShort [id]
  | payload (id n : UInt8) {rest : Bytes} (h : rest.length < n.toNat) : CutShort (id :: n :: rest)

/-- After some whole elements there is one that is cut short. -/
def Malformed (buf : Bytes) : Prop :=
  ∃ (es : List Element) (tail : Bytes), buf = es.flatMap bytes ++ tail ∧ CutShort tail

theorem split?_eq_none_iff {buf : Bytes} :
    Tlv.split? .beacon buf = none ↔ buf = [] ∨ CutShort buf := by
  match buf with
  | [] => exact ⟨fun _ ↦ .inl rfl, fun _ ↦ rfl⟩
  | [id] => exact ⟨fun _ ↦ .inr (.header id), fun _ ↦ rfl⟩
  | id :: n :: rest =>
    have hs : Tlv.split? .beacon (id :: n :: rest) = none ↔ rest.length < n.toNat := by
      have hm : min n.toNat rest.length = n.toNat ↔ ¬ rest.length < n.toNat := by omega
      simp [Tlv.split?, Tlv.split?.cut, hm]
    rw [hs]
    constructor
    · exact fun h ↦ .inr (.payload id n h)
    · rintro (h | h)
      · cases h
      · cases h
        assumption

theorem parse_of_malformed {buf : Bytes} (h : Malformed buf) :
    Tlv.parse .beacon buf = .error .malformedTlv := by
  obtain ⟨es, tail, rfl, ht⟩ := h
  have he : ∀ t ∈ es.map tlv, Tlv.Encodable .beacon t := fun t ↦ encodable_of_mem_map_tlv
  have hw := Tlv.walk_flatMap_encode he tail
  rw [flatMap_encode_map_tlv, Tlv.walk_of_not_split? (split?_eq_none_iff.mpr (.inr ht))] at hw
  have hn : tail ≠ [] := by cases ht <;> simp
  simp only [Tlv.parse, hw, hn, if_false]

/-- A string that is not malformed is one of whole elements. -/
theorem exists_of_not_malformed {buf : Bytes} (h : ¬ Malformed buf) :
    ∃ es : List Element, buf = es.flatMap bytes := by
  obtain ⟨he, hb, ht⟩ := Tlv.walk_spec .beacon buf
  obtain ⟨es, hes⟩ := exists_map_tlv_eq he
  rw [← hes, flatMap_encode_map_tlv] at hb
  rcases split?_eq_none_iff.mp ht with ht | ht
  · exact ⟨es, by rw [hb, ht, List.append_nil]⟩
  · exact absurd ⟨es, _, hb, ht⟩ h

end Element

end Dot11

open Dot11 (ElementId)

namespace Security

/-- The protection of a network by the elements that are there or not. -/
theorem ofElements_eq (capability : UInt16) (es : List Element) :
    ofElements capability es =
      if capability &&& 0x10 = 0 then .unprotected
      else if ∃ e ∈ es, e.id = 48 then .wpa2
      else if ∃ e ∈ es, e.id = 221 ∧ [0x00, 0x50, 0xF2, 0x01] <+: e.payload then .wpa
      else .wep := by
  have hr : Element.payloads .rsn es ≠ [] ↔ ∃ e ∈ es, e.id = 48 := Element.payloads_ne_nil_iff
  have hw : (Element.payloads .vendorSpecific es).any Dot11.isWpaElement ↔
      ∃ e ∈ es, e.id = 221 ∧ [0x00, 0x50, 0xF2, 0x01] <+: e.payload := by
    simp only [List.any_eq_true, Element.mem_payloads, Dot11.isWpaElement_iff]
    constructor
    · rintro ⟨_, ⟨e, he, hi, rfl⟩, hp⟩
      exact ⟨e, he, hi, hp⟩
    · rintro ⟨e, he, hi, hp⟩
      exact ⟨_, ⟨e, he, hi, rfl⟩, hp⟩
  simp only [ofElements, hr, hw, Dot11.Capability.privacy]

theorem exists_of_ofElements_eq_wpa {capability : UInt16} {es : List Element}
    (h : ofElements capability es = .wpa) :
    ∃ v ∈ Element.payloads .vendorSpecific es, Dot11.isWpaElement v := by
  unfold ofElements at h
  split at h
  · cases h
  split at h
  · cases h
  split at h
  · rename_i hw
    exact List.any_eq_true.mp hw
  · cases h

theorem ofElements_perm {es es' : List Element} (h : es.Perm es') (capability : UInt16) :
    ofElements capability es = ofElements capability es' := by
  simp only [ofElements_eq, h.mem_iff]

theorem inferFrom_flatMap_bytes (capability : UInt16) (es : List Element) :
    inferFrom capability (es.flatMap Element.bytes) = .ok (ofElements capability es) := by
  rw [inferFrom, Element.parse_eq_ok_iff.mpr ⟨es, rfl, rfl⟩]
  exact congrArg Except.ok (infer_map_tlv capability es)

end Security

namespace Beacon

theorem securityElements_fit (d : Beacon) :
    ∀ t ∈ Params.securityElements d.network, t.Fits := by
  have hv : ∀ p ∈ d.network.vendor, p.length < 0x10000 := fun p hp ↦
    Nat.lt_trans (Element.length_of_mem_payloads (List.mem_of_mem_take hp)) (by decide)
  have hr : ∀ p ∈ d.network.rsn.toList, p.length < 0x10000 := fun p hp ↦
    Nat.lt_trans (Element.length_of_mem_payloads
      (List.mem_of_getLast? (Option.mem_toList.mp hp))) (by decide)
  intro t ht
  rcases List.mem_append.mp ht with ht | ht
  · split at ht
    · obtain ⟨p, hp, rfl⟩ := List.mem_map.mp ht
      exact hv p hp
    · cases ht
  · split at ht
    · obtain ⟨p, hp, rfl⟩ := List.mem_map.mp ht
      exact hr p hp
    · cases ht

/-- A beacon of WPA2 has an RSN element, and the last one is kept. -/
theorem exists_rsn (d : Beacon) (h : d.network.security = .wpa2) :
    ∃ e ∈ d.elements, e.id = 48 ∧ d.network.rsn = some e.payload := by
  have hs : d.network.rsn.isSome :=
    List.getLast?_isSome.mpr (Security.payloads_ne_nil_of_ofElements h)
  obtain ⟨p, hp⟩ := Option.isSome_iff_exists.mp hs
  obtain ⟨e, he, hi, rfl⟩ := Element.mem_payloads.mp (List.mem_of_getLast? hp)
  exact ⟨e, he, hi, hp⟩

/-- What a network wants to see again of its beacon can always be added to a block. -/
theorem addSecurity_eq (d : Beacon) (block : Tlv.Block) :
    let b := d.network
    Params.addSecurity block b.security b.vendor b.rsn =
      (.ok (), ⟨block.bytes ++ Tlv.encodeAll (Params.securityElements b)⟩) := by
  refine Params.addSecurity_of_fits d.securityElements_fit (fun h ↦ ?_) block
  obtain ⟨e, -, -, hr⟩ := d.exists_rsn h
  exact Option.isSome_of_eq_some hr

end Beacon

/-- A beacon that is not malformed says by its capability word whether its network is protected, and
by its elements how, and it does not matter in which order they come. Whatever protection a network
was found to have, an association with it has all that it needs: of WPA2 it has the RSN element. -/
theorem protection_inferred (capability : UInt16) (buf : Bytes) :
    (Element.Malformed buf → Security.inferFrom capability buf = .error .malformedTlv) ∧
      (¬ Element.Malformed buf → ∃ es : List Element, buf = es.flatMap Element.bytes ∧
        Security.inferFrom capability buf = .ok (
          if capability &&& 0x10 = 0 then .unprotected
          else if ∃ e ∈ es, e.id = 48 then .wpa2
          else if ∃ e ∈ es, e.id = 221 ∧ [0x00, 0x50, 0xF2, 0x01] <+: e.payload then .wpa
          else .wep)) ∧
      (∀ es es' : List Element, es.Perm es' →
        Security.inferFrom capability (es.flatMap Element.bytes) =
          Security.inferFrom capability (es'.flatMap Element.bytes)) ∧
      ∀ raw b, Bss.parse raw = .ok b →
        ∃ es : List Element, raw.drop Bss.fixedSize = es.flatMap Element.bytes ∧
          Security.inferFrom b.capability (raw.drop Bss.fixedSize) = .ok b.security ∧
          (b.security = .wpa2 → ∃ e ∈ es, e.id = 48 ∧ b.rsn = some e.payload) ∧
          ∀ block, (Params.addSecurity block b.security b.vendor b.rsn).1 = .ok () := by
  refine ⟨?_, ?_, ?_, ?_⟩
  · intro h
    rw [Security.inferFrom, Element.parse_of_malformed h]
    rfl
  · intro h
    obtain ⟨es, rfl⟩ := Element.exists_of_not_malformed h
    refine ⟨es, rfl, ?_⟩
    rw [Security.inferFrom_flatMap_bytes, Security.ofElements_eq]
  · intro es es' h
    rw [Security.inferFrom_flatMap_bytes, Security.inferFrom_flatMap_bytes,
      Security.ofElements_perm h]
  · intro raw b h
    obtain ⟨d, rfl, rfl⟩ := Bss.parse_eq_ok_iff.mp h
    have hd : d.bytes.drop Bss.fixedSize = d.elements.flatMap Element.bytes := by
      rw [Beacon.bytes, ← d.length_bytes, List.drop_left]
    refine ⟨d.elements, hd, ?_, d.exists_rsn, ?_⟩
    · rw [hd]
      exact Security.inferFrom_flatMap_bytes _ _
    · intro block
      exact congrArg Prod.fst (d.addSecurity_eq block)

theorem findIdx_lt_iff_exists_take {α : Type} {p : α → Bool} {l : List α} (h : ∃ x ∈ l, p x)
    (n : Nat) : l.findIdx p < n ↔ ∃ x ∈ l.take n, p x := by
  have hl := List.findIdx_lt_length.mpr h
  rw [← List.findIdx_lt_length, List.findIdx_take, List.length_take]
  omega

/-- A network of WPA has a WPA element, but what is kept of its vendor elements, and repeated in an
association, are the first eight; so the WPA element is repeated exactly if fewer than eight other
vendor elements come before it. -/
theorem wpa_element_repeated (raw : Bytes) (b : Bss) (hb : Bss.parse raw = .ok b)
    (hs : b.security = .wpa) :
    ∃ d : Beacon, raw = d.bytes ∧
      let vendor := Element.payloads .vendorSpecific d.elements
      (∃ v ∈ vendor, Dot11.isWpaElement v) ∧
      b.vendor = vendor.take 8 ∧
      ((∃ v ∈ b.vendor, Dot11.isWpaElement v) ↔ vendor.findIdx Dot11.isWpaElement < 8) ∧
      ∀ block, ∃ added,
        Params.addSecurity block b.security b.vendor b.rsn = (.ok (), ⟨block.bytes ++ added⟩) ∧
        Tlv.parse .chip added = .ok (b.vendor.map fun v ↦ ⟨TlvType.vendor, v⟩) := by
  obtain ⟨d, rfl, rfl⟩ := Bss.parse_eq_ok_iff.mp hb
  have hw := Security.exists_of_ofElements_eq_wpa hs
  have he : Params.securityElements d.network =
      d.network.vendor.map fun v ↦ ⟨TlvType.vendor, v⟩ := by
    rw [Params.securityElements, hs]
    exact List.append_nil _
  refine ⟨d, rfl, hw, rfl, (findIdx_lt_iff_exists_take hw 8).symm, ?_⟩
  intro block
  refine ⟨_, d.addSecurity_eq block, ?_⟩
  rw [Tlv.parse_encodeAll d.securityElements_fit, he]

def crowded (n : Nat) : Beacon where
  bssid := ⟨2, 0, 0, 0, 0, 1⟩
  rssi := 40
  timestamp := 0
  beaconInterval := 100
  capability := 0x0011
  elements := [⟨0, [65], by decide⟩] ++
    List.replicate n ⟨221, [0x00, 0x10, 0x18, 0x02], by decide⟩ ++
    [⟨221, [0x00, 0x50, 0xF2, 0x01, 0x01, 0x00], by decide⟩]

theorem wpa_element_repeated_eighth :
    let b := (crowded 7).network
    Bss.parse (crowded 7).bytes = .ok b ∧ b.security = .wpa ∧
      (∃ v ∈ b.vendor, Dot11.isWpaElement v) ∧
      ∀ block, ∃ added,
        Params.addSecurity block b.security b.vendor b.rsn = (.ok (), ⟨block.bytes ++ added⟩) ∧
        Tlv.parse .chip added = .ok (b.vendor.map fun v ↦ ⟨TlvType.vendor, v⟩) := by
  intro b
  have hb : Bss.parse (crowded 7).bytes = .ok b := Bss.parse_eq_ok_iff.mpr ⟨_, rfl, rfl⟩
  have hs : b.security = .wpa := by decide
  obtain ⟨d, -, -, -, -, ha⟩ := wpa_element_repeated _ b hb hs
  exact ⟨hb, hs, by decide, ha⟩

/-- After eight other vendor elements there is no room for the WPA element. -/
theorem wpa_element_dropped :
    let b := (crowded 8).network
    Bss.parse (crowded 8).bytes = .ok b ∧ b.security = .wpa ∧
      ¬ ∃ v ∈ b.vendor, Dot11.isWpaElement v :=
  ⟨Bss.parse_eq_ok_iff.mpr ⟨_, rfl, rfl⟩, by decide, by decide⟩

end SdioWlan
