import SdioWlan.Proofs.Scan.Beacon
import SdioWlan.ScanReport

namespace SdioWlan

/-- A beacon as it stands in a report, behind its length in two bytes. -/
structure Description extends Beacon where
  fits : toBeacon.bytes.length < 0x10000
  deriving DecidableEq

def Description.bytes (d : Description) : Bytes :=
  leBytes 2 d.toBeacon.bytes.length ++ d.toBeacon.bytes

namespace ScanReport

variable {n : Nat} {sets rest tail : Bytes} {b : Bss} {ds : List Description}

theorem split_bytes_append (d : Description) (rest : Bytes) :
    split (d.bytes ++ rest) = .ok (d.network, rest) := by
  let n := d.toBeacon.bytes.length
  have hb : d.bytes ++ rest =
      UInt8.ofNat n :: UInt8.ofNat (n / 256) :: (d.toBeacon.bytes ++ rest) := by
    rw [Description.bytes, List.append_assoc]
    rfl
  have hn : (ofLe16 (UInt8.ofNat n) (UInt8.ofNat (n / 256))).toNat = n := by
    rw [toNat_ofLe16]
    exact leNat_leBytes 2 n d.fits
  have hl : n ≤ (d.toBeacon.bytes ++ rest).length := by
    rw [List.length_append]
    exact Nat.le_add_right n rest.length
  have hp : Bss.parse d.toBeacon.bytes = .ok d.network :=
    Bss.parse_eq_ok_iff.mpr ⟨d.toBeacon, rfl, rfl⟩
  rw [hb, split]
  simp only [hn, if_pos hl, n, List.take_left, List.drop_left, hp]
  rfl

theorem split_eq_ok_iff :
    split sets = .ok (b, rest) ↔ ∃ d : Description, sets = d.bytes ++ rest ∧ b = d.network := by
  constructor
  · intro h
    unfold split at h
    split at h
    · rename_i n₀ n₁ body
      dsimp only at h
      split at h
      · rename_i hn
        cases hp : Bss.parse (body.take (ofLe16 n₀ n₁).toNat) with
        | error e =>
          rw [hp] at h
          cases h
        | ok b' =>
          rw [hp] at h
          cases h
          obtain ⟨d, hd, rfl⟩ := Bss.parse_eq_ok_iff.mp hp
          have hl : d.bytes.length = (ofLe16 n₀ n₁).toNat := by
            rw [← hd, List.length_take_of_le hn]
          have hb : leBytes 2 (ofLe16 n₀ n₁).toNat = [n₀, n₁] := le16_ofLe16 n₀ n₁
          have hf : d.bytes.length < 0x10000 := by
            rw [hl]
            exact (ofLe16 n₀ n₁).toNat_lt
          refine ⟨⟨d, hf⟩, ?_, rfl⟩
          show n₀ :: n₁ :: body = leBytes 2 d.bytes.length ++ d.bytes ++ body.drop _
          rw [hl, hb, ← hd, List.append_assoc, List.take_append_drop]
          rfl
      · cases h
    · cases h
  · intro h
    obtain ⟨d, rfl, rfl⟩ := h
    exact split_bytes_append d rest

/-- What is read of descriptions and a tail is the networks of the former, and what the tail is
read as. -/
theorem walk_flatMap_append (h : ds.length ≤ n) (tail : Bytes) :
    walk n (ds.flatMap Description.bytes ++ tail) =
      (ds.map (·.network) ++ (walk (n - ds.length) tail).1, (walk (n - ds.length) tail).2) := by
  induction ds generalizing n with
  | nil => rfl
  | cons d ds ih =>
    obtain ⟨m, rfl⟩ : ∃ m, n = m + 1 := ⟨n - 1, by rw [List.length_cons] at h; omega⟩
    have hm : ds.length ≤ m := Nat.le_of_succ_le_succ h
    have hs : split ((d :: ds).flatMap Description.bytes ++ tail) =
        .ok (d.network, ds.flatMap Description.bytes ++ tail) := by
      rw [List.flatMap_cons, List.append_assoc]
      exact split_bytes_append d _
    rw [walk, hs]
    simp only [ih hm, List.length_cons, Nat.add_sub_add_right, List.map_cons, List.cons_append]

theorem walk_of_error {e : DriverError} (h : split sets = .error e) (hn : 0 < n) :
    walk n sets = ([], some e) := by
  cases n with
  | zero => exact absurd hn (Nat.lt_irrefl 0)
  | succ n => simp only [walk, h]

/-- Every string starts with as many descriptions as were asked for, or with fewer and then no
other one. -/
theorem exists_descriptions (n : Nat) (sets : Bytes) :
    ∃ (ds : List Description) (tail : Bytes), sets = ds.flatMap Description.bytes ++ tail ∧
      (ds.length = n ∨ ds.length < n ∧ ∃ e, split tail = .error e) := by
  induction n generalizing sets with
  | zero => exact ⟨[], sets, rfl, .inl rfl⟩
  | succ n ih =>
    cases hs : split sets with
    | error e => exact ⟨[], sets, rfl, .inr ⟨Nat.succ_pos n, e, hs⟩⟩
    | ok r =>
      obtain ⟨b, rest⟩ := r
      obtain ⟨d, rfl, -⟩ := split_eq_ok_iff.mp hs
      obtain ⟨ds, tail, rfl, hn⟩ := ih rest
      refine ⟨d :: ds, tail, by rw [List.flatMap_cons, List.append_assoc], ?_⟩
      rcases hn with hn | ⟨hn, he⟩
      · exact .inl (congrArg (· + 1) hn)
      · exact .inr ⟨Nat.succ_lt_succ hn, he⟩

structure Cursor where
  rest : Bytes
  remaining : UInt8
  failed : Bool
  deriving DecidableEq

namespace Cursor

def next (c : Cursor) : Option (Except DriverError Bss) × Cursor :=
  if c.failed ∨ c.remaining = 0 then (none, c)
  else match split c.rest with
    | .ok (b, rest) => (some (.ok b), { c with rest, remaining := c.remaining - 1 })
    | .error e => (some (.error e), { c with remaining := c.remaining - 1, failed := true })

def answer : Nat → Cursor → Option (Except DriverError Bss)
  | 0, c => c.next.1
  | k + 1, c => answer k c.next.2

def items (c : Cursor) : List (Except DriverError Bss) :=
  if c.failed then []
  else
    let w := walk c.remaining.toNat c.rest
    w.1.map .ok ++ w.2.toList.map .error

theorem items_next (c : Cursor) :
    c.next.1 = c.items.head? ∧ c.next.2.items = c.items.tail := by
  by_cases hf : c.failed
  · simp [next, items, hf]
  by_cases hr : c.remaining = 0
  · simp [next, items, hr, walk]
  obtain ⟨m, hm⟩ : ∃ m, c.remaining.toNat = m + 1 := by
    have h₀ : c.remaining.toNat ≠ 0 := fun h ↦ hr (UInt8.toNat_inj.mp h)
    exact ⟨c.remaining.toNat - 1, by omega⟩
  have hd : (c.remaining - 1).toNat = m := by
    have h₁ : (1 : UInt8) ≤ c.remaining := by
      rw [UInt8.le_iff_toNat_le, hm]
      exact Nat.le_add_left 1 m
    rw [UInt8.toNat_sub_of_le _ _ h₁, hm]
    rfl
  cases hs : split c.rest with
  | error e => simp [next, items, hf, hr, hs, hm, walk]
  | ok r =>
    obtain ⟨b, rest⟩ := r
    simp [next, items, hf, hr, hs, hm, hd, walk]

theorem answer_eq (k : Nat) (c : Cursor) : c.answer k = c.items[k]? := by
  induction k generalizing c with
  | zero => rw [answer, c.items_next.1, List.head?_eq_getElem?]
  | succ k ih => rw [answer, ih, c.items_next.2, List.getElem?_tail]

end Cursor

def cursor (r : ScanReport) : Cursor := ⟨r.sets, r.count, false⟩

theorem answer_cursor {r : ScanReport} (h : r.networks = ds.map (·.network)) (k : Nat) :
    r.cursor.answer k =
      (ds.map (fun d ↦ .ok d.network) ++ r.fault?.toList.map .error)[k]? := by
  have hi : r.cursor.items = r.networks.map .ok ++ r.fault?.toList.map .error := rfl
  rw [Cursor.answer_eq, hi, h, List.map_map]
  rfl

/-- A fault takes the place of a network that is counted, so it is none too many. -/
theorem answer_cursor_of_le {r : ScanReport} (h : r.networks = ds.map (·.network))
    (hf : r.fault? = none ↔ ds.length = r.count.toNat) (hle : ds.length ≤ r.count.toNat) {k : Nat}
    (hk : r.count.toNat ≤ k) : r.cursor.answer k = none := by
  rw [answer_cursor h, List.getElem?_eq_none]
  rw [List.length_append, List.length_map, List.length_map]
  cases he : r.fault? with
  | none =>
    rw [Option.toList_none, List.length_nil]
    omega
  | some e =>
    have hne : ds.length ≠ r.count.toNat := by
      intro h
      have hnone := hf.mpr h
      rw [he] at hnone
      cases hnone
    rw [Option.toList_some, List.length_singleton]
    omega

/-- A report is read up to where its networks end, or up to the first that is malformed. -/
structure ReadsPrefix (r : ScanReport) (ds : List Description) (tail : Bytes) : Prop where
  sets : r.sets = ds.flatMap Description.bytes ++ tail
  length_le : ds.length ≤ r.count.toNat
  networks : r.networks = ds.map (·.network)
  fault : r.fault? = none ↔ ds.length = r.count.toNat
  answers : ∀ k, r.cursor.answer k =
    (ds.map (fun d ↦ .ok d.network) ++ r.fault?.toList.map .error)[k]?
  bounded : ∀ k, r.count.toNat ≤ k → r.cursor.answer k = none
  longest : ∀ (es : List Description) (rest : Bytes), es.length ≤ r.count.toNat →
    r.sets = es.flatMap Description.bytes ++ rest → es.length ≤ ds.length

theorem exists_readsPrefix (r : ScanReport) : ∃ ds tail, r.ReadsPrefix ds tail := by
  obtain ⟨ds, tail, hs, hn⟩ := exists_descriptions r.count.toNat r.sets
  have hle : ds.length ≤ r.count.toNat := by
    rcases hn with hn | hn
    · exact Nat.le_of_eq hn
    · exact Nat.le_of_lt hn.1
  have hw : walk r.count.toNat r.sets =
      (ds.map (·.network) ++ (walk (r.count.toNat - ds.length) tail).1,
        (walk (r.count.toNat - ds.length) tail).2) := by
    rw [hs]
    exact walk_flatMap_append hle tail
  have ht : (walk (r.count.toNat - ds.length) tail).1 = [] ∧
      ((walk (r.count.toNat - ds.length) tail).2 = none ↔ ds.length = r.count.toNat) := by
    rcases hn with hn | ⟨hn, e, he⟩
    · simp [hn, walk]
    · have hp : 0 < r.count.toNat - ds.length := Nat.sub_pos_of_lt hn
      simp [walk_of_error he hp, Nat.ne_of_lt hn]
  have hnet : r.networks = ds.map (·.network) := by
    rw [networks, hw, ht.1, List.append_nil]
  have hfault : r.fault? = none ↔ ds.length = r.count.toNat := by
    rw [fault?, hw]
    exact ht.2
  refine ⟨ds, tail, hs, hle, hnet, hfault, answer_cursor hnet,
    fun k ↦ answer_cursor_of_le hnet hfault hle, fun es rest he hs' ↦ ?_⟩
  have hw' := walk_flatMap_append he rest
  rw [← hs', hw, ht.1, List.append_nil] at hw'
  have hl := congrArg (fun w ↦ w.1.length) hw'
  simp only [List.length_append, List.length_map] at hl
  omega

def encode (size : UInt16) (ds : List Description) : Bytes :=
  le16 size ++ [UInt8.ofNat ds.length] ++ ds.flatMap Description.bytes

theorem parse_encode (size : UInt16) (ds : List Description) (trailing : Bytes) :
    parse (encode size ds ++ trailing) =
      .ok ⟨size, UInt8.ofNat ds.length, ds.flatMap Description.bytes ++ trailing⟩ := by
  simp only [encode, le16_eq, List.cons_append, List.nil_append, parse, ofLe16_le16]

theorem parse_eq_error_iff {body : Bytes} :
    parse body = .error .malformedFrame ↔ body.length < 3 := by
  match body with
  | [] | [_] | [_, _] => simp [parse]
  | s₀ :: s₁ :: n :: sets => simp [parse]

theorem parse_of_le {body : Bytes} (h : 3 ≤ body.length) :
    ∃ r, parse body = .ok r ∧ body = le16 r.size ++ [r.count] ++ r.sets := by
  match body, h with
  | s₀ :: s₁ :: n :: sets, _ => exact ⟨_, rfl, by simp [le16_ofLe16]⟩

/-- A report built from descriptions of networks is read as these networks, whatever follows it. A
report that is too short is refused, and any other one is read up to the first network that is
malformed. -/
theorem parse_inverts_encode (size : UInt16) (ds : List Description) (h : ds.length ≤ 255)
    (trailing body : Bytes) :
    (∃ r, parse (encode size ds ++ trailing) = .ok r ∧ r.size = size ∧
      r.networks = ds.map (·.network) ∧ r.fault? = none ∧
      ∀ k, r.cursor.answer k = ds[k]?.map fun d ↦ .ok d.network) ∧
    (parse body = .error .malformedFrame ↔ body.length < 3) ∧
    (3 ≤ body.length → ∃ r ds tail, parse body = .ok r ∧
      body = le16 r.size ++ [r.count] ++ r.sets ∧ r.ReadsPrefix ds tail) := by
  refine ⟨?_, parse_eq_error_iff, ?_⟩
  · let r : ScanReport :=
      ⟨size, UInt8.ofNat ds.length, ds.flatMap Description.bytes ++ trailing⟩
    have hn : (UInt8.ofNat ds.length).toNat = ds.length := by
      rw [UInt8.toNat_ofNat']
      omega
    have hw : walk r.count.toNat r.sets = (ds.map (·.network), none) := by
      rw [hn, walk_flatMap_append (Nat.le_refl _), Nat.sub_self, walk, List.append_nil]
    have hnet : r.networks = ds.map (·.network) := congrArg Prod.fst hw
    have hfault : r.fault? = none := congrArg Prod.snd hw
    refine ⟨r, parse_encode size ds trailing, rfl, hnet, hfault, ?_⟩
    intro k
    rw [answer_cursor hnet, hfault, Option.toList_none, List.map_nil, List.append_nil,
      List.getElem?_map]
  · intro hb
    obtain ⟨r, hr, he⟩ := parse_of_le hb
    obtain ⟨ds, tail, hp⟩ := r.exists_readsPrefix
    exact ⟨r, ds, tail, hr, he, hp⟩

def renamed : Description where
  bssid := ⟨0x02, 0, 0, 0, 0, 1⟩
  rssi := 0x40
  timestamp := 7
  beaconInterval := 100
  capability := 0x0011
  elements := [⟨0, [0x61], by decide⟩, ⟨3, [6], by decide⟩, ⟨3, [], by decide⟩,
    ⟨48, [1, 0], by decide⟩, ⟨0, [0x62], by decide⟩]
  fits := by decide

theorem parse_inverts_encode_renamed : [renamed].length ≤ 255 ∧
    ∃ r, parse (encode 0 [renamed] ++ [0xFF]) = .ok r ∧
      r.networks.map (fun b ↦ (b.ssid, b.channel, b.rsn, b.security)) =
        [([0x62], 6, some [1, 0], .wpa2)] := by
  have hl : [renamed].length ≤ 255 := by decide
  obtain ⟨⟨r, hr, -, hn, -, -⟩, -, -⟩ := parse_inverts_encode 0 [renamed] hl [0xFF] []
  refine ⟨hl, r, hr, ?_⟩
  rw [hn]
  rfl

end ScanReport

end SdioWlan
