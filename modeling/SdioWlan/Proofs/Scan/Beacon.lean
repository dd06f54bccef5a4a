import Mathlib.Data.List.Induction
import SdioWlan.Proofs.Elements
import SdioWlan.ScanReport

namespace SdioWlan

namespace Dot11

theorem ElementId.ofCode?_eq_some_iff {v : UInt8} {id : ElementId} :
    ofCode? v = some id ↔ v = id.code := by
  constructor
  · intro h
    unfold ofCode? at h
    split at h
    · cases h
      assumption
    · repeat
        split at h
        · cases h
          assumption
      cases h
  · intro h
    rw [h]
    exact ofCode?_code id

structure Element where
  id : UInt8
  payload : Bytes
  short : payload.length < 0x100
  deriving DecidableEq

namespace Element

def bytes (e : Element) : Bytes := [e.id, UInt8.ofNat e.payload.length] ++ e.payload

def tlv (e : Element) : Tlv := ⟨e.id.toUInt16, e.payload⟩

@[simp] theorem toUInt8_type_tlv (e : Element) : e.tlv.type.toUInt8 = e.id :=
  UInt8.toUInt8_toUInt16 e.id

@[simp] theorem payload_tlv (e : Element) : e.tlv.payload = e.payload := rfl

theorem encode_tlv (e : Element) : e.tlv.encode .beacon = e.bytes := by
  simp only [Tlv.encode, toUInt8_type_tlv, payload_tlv, bytes]

theorem encodable_tlv (e : Element) : Tlv.Encodable .beacon e.tlv := by
  refine ⟨?_, e.short⟩
  show e.id.toUInt16.toNat < 0x100
  rw [UInt8.toNat_toUInt16]
  exact e.id.toNat_lt

theorem exists_tlv_eq {t : Tlv} (h : Tlv.Encodable .beacon t) : ∃ e : Element, e.tlv = t := by
  refine ⟨⟨t.type.toUInt8, t.payload, h.2⟩, ?_⟩
  have ht : t.type.toUInt8.toUInt16 = t.type := by
    apply UInt16.toNat_inj.mp
    rw [UInt8.toNat_toUInt16, UInt16.toNat_toUInt8]
    exact Nat.mod_eq_of_lt h.1
  rw [tlv, ht]

theorem exists_map_tlv_eq {ts : List Tlv} (h : ∀ t ∈ ts, Tlv.Encodable .beacon t) :
    ∃ es : List Element, es.map tlv = ts := by
  induction ts with
  | nil => exact ⟨[], rfl⟩
  | cons t ts ih =>
    obtain ⟨ht, hts⟩ := List.forall_mem_cons.mp h
    obtain ⟨e, he⟩ := exists_tlv_eq ht
    obtain ⟨es, hes⟩ := ih hts
    exact ⟨e :: es, by rw [List.map_cons, he, hes]⟩

theorem encodable_of_mem_map_tlv {es : List Element} {t : Tlv} (h : t ∈ es.map tlv) :
    Tlv.Encodable .beacon t := by
  obtain ⟨e, -, rfl⟩ := List.mem_map.mp h
  exact e.encodable_tlv

theorem flatMap_encode_map_tlv (es : List Element) :
    (es.map tlv).flatMap (Tlv.encode .beacon) = es.flatMap bytes := by
  rw [List.flatMap_map]
  exact congrArg (es.flatMap ·) (funext encode_tlv)

theorem parse_eq_ok_iff {buf : Bytes} {ts : List Tlv} :
    Tlv.parse .beacon buf = .ok ts ↔
      ∃ es : List Element, ts = es.map tlv ∧ buf = es.flatMap bytes := by
  rw [Tlv.parse_eq_ok_iff_encode]
  constructor
  · intro h
    obtain ⟨es, rfl⟩ := exists_map_tlv_eq h.1
    exact ⟨es, rfl, h.2.trans (flatMap_encode_map_tlv es)⟩
  · intro h
    obtain ⟨es, rfl, rfl⟩ := h
    exact ⟨fun t ↦ encodable_of_mem_map_tlv, (flatMap_encode_map_tlv es).symm⟩

def payloads (id : ElementId) (es : List Element) : List Bytes :=
  (es.filter fun e ↦ e.id = id.code).map payload

theorem payloads_concat (id : ElementId) (es : List Element) (e : Element) :
    payloads id (es ++ [e]) = if ElementId.ofCode? e.id = some id then
      payloads id es ++ [e.payload] else payloads id es := by
  by_cases h : e.id = id.code
  · simp [payloads, h]
  · simp [payloads, h, ElementId.ofCode?_eq_some_iff]

end Element

end Dot11

open Dot11 (Element)

/-- The protection that a capability word and the elements of a beacon stand for. -/
def Security.ofElements (capability : UInt16) (es : List Element) : Security :=
  if capability &&& Dot11.Capability.privacy = 0 then .unprotected
  else if Element.payloads .rsn es ≠ [] then .wpa2
  else if (Element.payloads .vendorSpecific es).any Dot11.isWpaElement then .wpa
  else .wep

theorem Security.infer_map_tlv (capability : UInt16) (es : List Element) :
    infer capability (es.map Element.tlv) = ofElements capability es := by
  have hf : (es.map Element.tlv).foldl refine .wep =
      if Element.payloads .rsn es ≠ [] then .wpa2
      else if (Element.payloads .vendorSpecific es).any Dot11.isWpaElement then .wpa
      else .wep := by
    induction es using List.reverseRecOn with
    | nil => rfl
    | append_singleton es e ih =>
      rw [List.map_append, List.foldl_append, ih, List.map_singleton, List.foldl_cons,
        List.foldl_nil, refine, Element.toUInt8_type_tlv, Element.payload_tlv]
      cases hc : Dot11.ElementId.ofCode? e.id with
      | none => simp only [Element.payloads_concat, hc, reduceCtorEq, if_false]
      | some id =>
        cases id with
        | rsn => simp [Element.payloads_concat, hc]
        | vendorSpecific =>
          by_cases hr : Element.payloads .rsn es = []
          · by_cases hw : Dot11.isWpaElement e.payload
            · simp [Element.payloads_concat, hc, hr, hw]
              split <;> simp
            · simp [Element.payloads_concat, hc, hr, hw]
          · simp [Element.payloads_concat, hc, hr]
        | _ => simp [Element.payloads_concat, hc]
  rw [infer, ofElements, hf]

theorem Security.payloads_ne_nil_of_ofElements {capability : UInt16} {es : List Element}
    (h : ofElements capability es = .wpa2) : Element.payloads .rsn es ≠ [] := by
  unfold ofElements at h
  split at h
  · cases h
  split at h
  · assumption
  split at h <;> cases h

structure Heading where
  bssid : Mac
  rssi : UInt8
  timestamp : UInt64
  beaconInterval : UInt16
  capability : UInt16
  deriving DecidableEq

namespace Heading

def bytes (h : Heading) : Bytes :=
  h.bssid.toBytes ++ [h.rssi] ++ leBytes 8 h.timestamp.toNat ++ le16 h.beaconInterval ++
    le16 h.capability

def network (h : Heading) : Bss :=
  { bssid := h.bssid, rssi := h.rssi, timestamp := h.timestamp,
    beaconInterval := h.beaconInterval, capability := h.capability }

@[simp] theorem length_bytes (h : Heading) : h.bytes.length = Bss.fixedSize := by
  simp [bytes, Bss.fixedSize, Mac.size]

theorem fixed?_bytes_append (h : Heading) (rest : Bytes) :
    Bss.fixed? (h.bytes ++ rest) = some h.network := by
  have hm : Mac.at? (h.bytes ++ rest) 0 = some h.bssid := rfl
  have hr : (h.bytes ++ rest)[6]? = some h.rssi := rfl
  have ht : (h.bytes ++ rest).slice? 7 8 = some (leBytes 8 h.timestamp.toNat) := by
    have hp : (h.bssid.toBytes ++ [h.rssi]).length = 7 := rfl
    rw [bytes, List.append_assoc, List.append_assoc, List.append_assoc]
    exact Bytes.slice?_append hp _ _
  have hn : UInt64.ofNat (leNat (leBytes 8 h.timestamp.toNat)) = h.timestamp := by
    rw [leNat_leBytes 8 _ h.timestamp.toNat_lt, UInt64.ofNat_toNat]
  have hi : (h.bytes ++ rest).u16? 15 = some h.beaconInterval := by
    have hp : (h.bssid.toBytes ++ [h.rssi] ++ leBytes 8 h.timestamp.toNat).length = 15 := rfl
    rw [bytes, List.append_assoc, List.append_assoc]
    exact Bytes.u16?_append hp _ _
  have hc : (h.bytes ++ rest).u16? 17 = some h.capability := by
    have hp : (h.bssid.toBytes ++ [h.rssi] ++ leBytes 8 h.timestamp.toNat ++
        le16 h.beaconInterval).length = 17 := rfl
    rw [bytes, List.append_assoc]
    exact Bytes.u16?_append hp _ rest
  simp only [Bss.fixed?, hm, hr, ht, hn, hi, hc, Option.bind_eq_bind, Option.bind_some,
    Option.pure_def, network]

theorem exists_bytes_eq {raw : Bytes} (h : raw.length = Bss.fixedSize) :
    ∃ d : Heading, d.bytes = raw := by
  match raw, h with
  | [a, b, c, d, e, f, r, t₀, t₁, t₂, t₃, t₄, t₅, t₆, t₇, i₀, i₁, c₀, c₁], _ =>
    let t := [t₀, t₁, t₂, t₃, t₄, t₅, t₆, t₇]
    have ht : leBytes 8 (UInt64.ofNat (leNat t)).toNat = t := by
      have hp : Nat.pow 256 8 = 2 ^ 64 := by decide
      have hl : leNat t < 2 ^ 64 := hp ▸ leNat_lt t
      rw [UInt64.toNat_ofNat', Nat.mod_eq_of_lt hl]
      exact leBytes_leNat t
    refine ⟨⟨⟨a, b, c, d, e, f⟩, r, .ofNat (leNat t), ofLe16 i₀ i₁, ofLe16 c₀ c₁⟩, ?_⟩
    rw [bytes, ht, le16_ofLe16, le16_ofLe16]
    rfl

end Heading

/-- What a beacon says of its network: fixed fields, and any elements. -/
structure Beacon extends Heading where
  elements : List Element
  deriving DecidableEq

namespace Beacon

def bytes (d : Beacon) : Bytes := d.toHeading.bytes ++ d.elements.flatMap Element.bytes

/-- The network that a beacon describes. Of most kinds of elements the last one counts. -/
def network (d : Beacon) : Bss where
  bssid := d.bssid
  rssi := d.rssi
  timestamp := d.timestamp
  beaconInterval := d.beaconInterval
  capability := d.capability
  channel := ((Element.payloads .dsParams d.elements).filterMap List.head?).getLast?.getD 0
  ssid := ((Element.payloads .ssid d.elements).getLast?.getD []).take Dot11.maxSsid
  rates := (Element.payloads .supportedRates d.elements).getLast?
  rsn := (Element.payloads .rsn d.elements).getLast?
  vendor := (Element.payloads .vendorSpecific d.elements).take Bss.maxVendor
  security := .ofElements d.capability d.elements

theorem take_concat_of_lt {α : Type} {l : List α} {n : Nat} (h : l.length < n) (x : α) :
    (l ++ [x]).take n = l.take n ++ [x] := by
  have hx : (l ++ [x]).length ≤ n := by
    rw [List.length_append]
    exact h
  rw [List.take_of_length_le hx, List.take_of_length_le (Nat.le_of_lt h)]

theorem foldl_absorb (h : Heading) (es : List Element) :
    (es.map Element.tlv).foldl Bss.absorb h.network =
      { network ⟨h, es⟩ with security := .unprotected } := by
  induction es using List.reverseRecOn with
  | nil => rfl
  | append_singleton es e ih =>
    rw [List.map_append, List.foldl_append, ih, List.map_singleton, List.foldl_cons,
      List.foldl_nil, Bss.absorb, Element.toUInt8_type_tlv, Element.payload_tlv]
    cases hc : Dot11.ElementId.ofCode? e.id with
    | none => simp [network, Element.payloads_concat, hc]
    | some id =>
      cases id with
      | vendorSpecific =>
        by_cases hv : (Element.payloads .vendorSpecific es).length < Bss.maxVendor
        · have hm : min Bss.maxVendor (Element.payloads .vendorSpecific es).length <
            Bss.maxVendor := by omega
          have ht := take_concat_of_lt hv e.payload
          simp [network, Element.payloads_concat, hc, hm, ht]
        · have hm : ¬ min Bss.maxVendor (Element.payloads .vendorSpecific es).length <
            Bss.maxVendor := by omega
          have ht : (Element.payloads .vendorSpecific es ++ [e.payload]).take Bss.maxVendor =
              (Element.payloads .vendorSpecific es).take Bss.maxVendor :=
            List.take_append_of_le_length (Nat.le_of_not_lt hv)
          simp [network, Element.payloads_concat, hc, hm, ht]
      | _ => simp [network, Element.payloads_concat, hc]

theorem parse_heading_append {h : Heading} {buf : Bytes} {b : Bss} :
    Bss.parse (h.bytes ++ buf) = .ok b ↔
      ∃ es : List Element, buf = es.flatMap Element.bytes ∧ b = network ⟨h, es⟩ := by
  have hn (es : List Element) : { (es.map Element.tlv).foldl Bss.absorb h.network with
      security := .infer h.capability (es.map Element.tlv) } = network ⟨h, es⟩ := by
    rw [foldl_absorb, Security.infer_map_tlv]
    rfl
  have hd : (h.bytes ++ buf).drop Bss.fixedSize = buf := by
    rw [← h.length_bytes, List.drop_left]
  rw [Bss.parse, h.fixed?_bytes_append]
  simp only [hd]
  constructor
  · intro hb
    cases ht : Tlv.parse .beacon buf with
    | error e =>
      rw [ht] at hb
      cases hb
    | ok ts =>
      rw [ht] at hb
      cases hb
      obtain ⟨es, rfl, he⟩ := Element.parse_eq_ok_iff.mp ht
      exact ⟨es, he, hn es⟩
  · intro hb
    obtain ⟨es, he, rfl⟩ := hb
    rw [Element.parse_eq_ok_iff.mpr ⟨es, rfl, he⟩]
    exact congrArg Except.ok (hn es)

end Beacon

theorem Bss.fixedSize_le_of_parse {raw : Bytes} {b : Bss} (h : parse raw = .ok b) :
    fixedSize ≤ raw.length := by
  unfold parse at h
  split at h
  · cases h
  · rename_i f hf
    simp only [fixed?, Option.bind_eq_bind, Option.bind_eq_some_iff] at hf
    obtain ⟨_, -, _, -, _, -, _, -, c, hc, -⟩ := hf
    obtain ⟨w, hw, -⟩ := Option.map_eq_some_iff.mp hc
    exact Bytes.slice?_isSome.mp (Option.isSome_of_eq_some hw)

/-- A description is read as a network exactly if it is the bytes of a beacon that describes the
network. -/
theorem Bss.parse_eq_ok_iff {raw : Bytes} {b : Bss} :
    parse raw = .ok b ↔ ∃ d : Beacon, raw = d.bytes ∧ b = d.network := by
  constructor
  · intro h
    have hl : (raw.take fixedSize).length = fixedSize :=
      List.length_take_of_le (fixedSize_le_of_parse h)
    obtain ⟨d, hd⟩ := Heading.exists_bytes_eq hl
    have hr : raw = d.bytes ++ raw.drop fixedSize := by rw [hd, List.take_append_drop]
    rw [hr] at h
    obtain ⟨es, he, hb⟩ := Beacon.parse_heading_append.mp h
    refine ⟨⟨d, es⟩, ?_, hb⟩
    rw [Beacon.bytes, ← he, ← hr]
  · intro h
    obtain ⟨d, rfl, rfl⟩ := h
    exact Beacon.parse_heading_append.mpr ⟨d.elements, rfl, rfl⟩

end SdioWlan
