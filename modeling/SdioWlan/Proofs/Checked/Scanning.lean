import SdioWlan.Proofs.Checked.Fields
import SdioWlan.Proofs.Elements
import SdioWlan.ScanReport

namespace SdioWlan.Checked

open Dot11 (ElementId)

theorem exists_cons_cons {n : Nat} {b : Bytes} (h : n + 2 ≤ b.length) :
    ∃ b₀ b₁ rest, b = b₀ :: b₁ :: rest ∧ n ≤ rest.length := by
  match b, h with
  | b₀ :: b₁ :: rest, h => exact ⟨b₀, b₁, rest, rfl, Nat.le_of_add_le_add_right h⟩

theorem split?_of_lt {format : Tlv.Format} {rest : Bytes} (h : rest.length < format.headerSize) :
    Tlv.split? format rest = none := by
  unfold Tlv.split?
  split
  · simp only [List.length_cons, Tlv.Format.headerSize] at h
    omega
  · simp only [List.length_cons, Tlv.Format.headerSize] at h
    omega
  · rfl

theorem parse_of_split? {format : Tlv.Format} {buf rest : Bytes} {t : Tlv}
    (h : Tlv.split? format buf = some (t, rest)) :
    Tlv.parse format buf = (Tlv.parse format rest).map (t :: ·) := by
  simp only [Tlv.parse, Tlv.walk_of_split? h]
  split <;> rfl

theorem parse_of_not_split? {format : Tlv.Format} {buf : Bytes} (hb : buf ≠ [])
    (h : Tlv.split? format buf = none) : Tlv.parse format buf = .error .malformedTlv := by
  rw [Tlv.parse, Tlv.walk_of_not_split? h]
  exact if_neg hb

/-- The elements of a beacon have types of one byte. -/
theorem type_lt_of_split? {buf rest : Bytes} {t : Tlv}
    (h : Tlv.split? .beacon buf = some (t, rest)) : t.type.toNat < 0x100 := by
  unfold Tlv.split? at h
  split at h
  · rename_i hf
    cases hf
  · rename_i type n tail hf
    unfold Tlv.split?.cut at h
    split at h
    · cases h
      rw [UInt8.toNat_toUInt16]
      exact type.toNat_lt
    · cases h
  · cases h

def elementId? (t : Tlv) : Except Fault (Option ElementId) := do
  return ElementId.ofCode? (← narrow8 t.type.toNat)

theorem elementId?_of_lt {t : Tlv} (h : t.type.toNat < 0x100) :
    elementId? t = .ok (ElementId.ofCode? t.type.toUInt8) := by
  simp only [elementId?, narrow8, if_pos h, ok_bind, pure_eq_ok]
  rfl

def isWpa (payload : Bytes) : Except Fault Bool := do
  if payload.length < 4 then return false
  else if (← slice payload 0 3) = [0x00, 0x50, 0xF2] then return (← index payload 3) == 0x01
  else return false

def refine (s : Security) (t : Tlv) : Except Fault Security := do
  match ← elementId? t with
  | some .rsn => return .wpa2
  | some .vendorSpecific =>
    if s ≠ .wpa2 then
      if ← isWpa t.payload then return .wpa else return s
    else return s
  | _ => return s

theorem isWpa_eq (payload : Bytes) : isWpa payload = .ok (Dot11.isWpaElement payload) := by
  unfold isWpa Dot11.isWpaElement
  match payload with
  | [] | [_] | [_, _] | [_, _, _] => simp
  | a :: b :: c :: d :: rest =>
    have hs : slice (a :: b :: c :: d :: rest) 0 3 = .ok [a, b, c] :=
      slice_of_le (by decide) (by simp)
    have hl : ¬ (a :: b :: c :: d :: rest).length < 4 := by simp
    simp only [if_neg hl, hs, ok_bind, index_zero, index_succ, pure_eq_ok]
    by_cases h : [a, b, c] = [0x00, 0x50, 0xF2]
    · rw [if_pos h]
      simp only [List.cons.injEq, and_true] at h
      simp [h.1, h.2.1, h.2.2]
    · rw [if_neg h]
      simp only [List.cons.injEq, and_true, not_and] at h
      simp only [List.take_succ_cons, List.take_zero, Except.ok.injEq, Bool.false_eq,
        beq_eq_false_iff_ne, ne_eq, List.cons.injEq]
      intro hd
      exact h hd.1 hd.2.1 hd.2.2.1

theorem refine_eq {s : Security} {t : Tlv} (ht : t.type.toNat < 0x100) :
    refine s t = .ok (s.refine t) := by
  unfold refine Security.refine
  simp only [elementId?_of_lt ht, ok_bind, isWpa_eq]
  cases ElementId.ofCode? t.type.toUInt8 with
  | none => rfl
  | some id =>
    cases id with
    | vendorSpecific =>
      dsimp only
      by_cases hs : s = .wpa2
      · simp only [hs, ne_eq, not_true_eq_false, if_false, false_and, pure_eq_ok]
      · cases Dot11.isWpaElement t.payload <;> simp [hs]
    | _ => rfl

theorem fixed?_of_le {raw : Bytes} (h : 19 ≤ raw.length) :
    ∃ bssid, macOf (raw.take 6) = .ok bssid ∧ Bss.fixed? raw = some {
      bssid
      rssi := raw[6]
      timestamp := UInt64.ofNat (leNat ((raw.drop 7).take 8))
      beaconInterval := ofLe16 raw[15] raw[16]
      capability := ofLe16 raw[17] raw[18] } := by
  obtain ⟨bssid, hm, ho⟩ := macOf_take (b := raw) (Nat.le_trans (by decide) h)
  have h₆ : raw[6]? = some raw[6] := List.getElem?_eq_getElem _
  have hs : raw.slice? 7 8 = some ((raw.drop 7).take 8) :=
    if_pos (Nat.le_trans (by decide) h)
  have h₁₅ : raw.u16? 15 = some (ofLe16 raw[15] raw[16]) := u16?_of_lt _
  have h₁₇ : raw.u16? 17 = some (ofLe16 raw[17] raw[18]) := u16?_of_lt _
  refine ⟨bssid, hm, ?_⟩
  simp only [Bss.fixed?, Mac.at?, List.drop_zero, ho, h₆, hs, h₁₅, h₁₇, Option.bind_eq_bind,
    Option.bind_some, pure]

/-- A network while its beacon is read. Its vendor elements are kept in eight places, of which the
first `vendorCount` are taken. -/
structure Descriptor where
  fields : Bss
  vendor : List Bytes
  vendorCount : Nat

namespace Descriptor

structure Shows (d : Descriptor) (b : Bss) : Prop where
  fields : d.fields = { b with vendor := [] }
  places : d.vendor.length = Bss.maxVendor
  count : d.vendorCount = b.vendor.length
  vendor : d.vendor.take d.vendorCount = b.vendor

theorem Shows.slice_vendor {d : Descriptor} {b : Bss} (h : d.Shows b) :
    slice d.vendor 0 d.vendorCount = .ok b.vendor := by
  have hl : d.vendorCount ≤ d.vendor.length := by
    have hn := congrArg List.length h.vendor
    rw [List.length_take, ← h.count] at hn
    omega
  rw [slice_zero hl, h.vendor]

end Descriptor

theorem length_le_of_split {sets rest : Bytes} {b : Bss}
    (h : ScanReport.split sets = .ok (b, rest)) : rest.length ≤ sets.length := by
  unfold ScanReport.split at h
  split at h
  · dsimp only at h
    split at h
    · obtain ⟨b', -, h⟩ := bind_eq_ok h
      cases h
      simp only [List.length_drop, List.length_cons]
      omega
    · cases h
  · cases h

variable [Machine]

structure Cursor where
  buf : Bytes
  pos : Nat
  format : Tlv.Format
  failed : Bool

namespace Cursor

def start (format : Tlv.Format) (buf : Bytes) : Cursor := ⟨buf, 0, format, false⟩

def fields (format : Tlv.Format) (rest : Bytes) : Except Fault (UInt16 × Nat) := do
  match format with
  | .chip => return (← word rest 0, (← word rest 2).toNat)
  | .beacon => return ((← index rest 0).toUInt16, (← index rest 1).toNat)

def next (c : Cursor) : Except Fault (Option (Except DriverError Tlv) × Cursor) := do
  if c.failed || c.buf.length ≤ c.pos then return (none, c)
  else
    let rest ← sliceFrom c.buf c.pos
    let size := c.format.headerSize
    if rest.length < size then return (some (.error .malformedTlv), { c with failed := true })
    else
      let (type, n) ← fields c.format rest
      if (← subSize rest.length size) < n then
        return (some (.error .malformedTlv), { c with failed := true })
      else
        let pos ← addSize c.pos (← addSize size n)
        let payload ← slice rest size (← addSize size n)
        return (some (.ok ⟨type, payload⟩), { c with pos })

/-- What the fields say decides whether there is an element. -/
theorem split?_of_fields {format : Tlv.Format} {rest : Bytes}
    (h : format.headerSize ≤ rest.length) :
    ∃ type n, fields format rest = .ok (type, n) ∧ n < 0x10000 ∧
      Tlv.split? format rest =
        if n ≤ rest.length - format.headerSize then
          some (⟨type, (rest.drop format.headerSize).take n⟩, rest.drop (format.headerSize + n))
        else none := by
  have hc (type : UInt16) (n : Nat) (tail : Bytes) : Tlv.split?.cut type n tail =
      if n ≤ tail.length then some (⟨type, tail.take n⟩, tail.drop n) else none := by
    by_cases hn : n ≤ tail.length
    · rw [Tlv.split?.cut, if_pos (List.length_take_of_le hn), if_pos hn]
    · rw [Tlv.split?.cut, if_neg hn, if_neg]
      rw [List.length_take]
      omega
  cases format with
  | chip =>
    obtain ⟨t₀, t₁, numbers, rfl, hn⟩ := exists_cons_cons (n := 2) h
    obtain ⟨n₀, n₁, tail, rfl, -⟩ := exists_cons_cons (n := 0) hn
    refine ⟨ofLe16 t₀ t₁, (ofLe16 n₀ n₁).toNat, ?_, (ofLe16 n₀ n₁).toNat_lt, ?_⟩
    · simp (disch := decide) only [fields, word, addSize_of_small, ok_bind, index_zero,
        index_succ, pure_eq_ok]
    · rw [Tlv.split?, hc, Nat.add_comm]
      rfl
  | beacon =>
    obtain ⟨t, n, tail, rfl, -⟩ := exists_cons_cons (n := 0) h
    refine ⟨t.toUInt16, n.toNat, rfl, Nat.lt_trans n.toNat_lt (by decide), ?_⟩
    rw [Tlv.split?, hc, Nat.add_comm]
    rfl

theorem rest_of_split? {format : Tlv.Format} {buf rest : Bytes} {t : Tlv}
    (h : Tlv.split? format buf = some (t, rest)) :
    rest = buf.drop (format.headerSize + t.payload.length) := by
  by_cases hl : buf.length < format.headerSize
  · rw [split?_of_lt hl] at h
    cases h
  · obtain ⟨type, n, -, -, ht⟩ := split?_of_fields (Nat.not_lt.mp hl)
    rw [h] at ht
    split at ht
    · rename_i hn
      cases ht
      rw [List.length_take_of_le (by rwa [List.length_drop])]
    · cases ht

theorem next_of_end {c : Cursor} (h : c.buf.length ≤ c.pos) : c.next = .ok (none, c) := by
  simp only [next, h, decide_true, Bool.or_true, if_true, pure_eq_ok]

/-- In a buffer that the machine can hold, a step finds an element or that there is none. -/
theorem next_of_lt {c : Cursor} (hf : c.failed = false) (hp : c.pos < c.buf.length)
    (hm : c.buf.length ≤ maxSlice) :
    c.next = .ok (match Tlv.split? c.format (c.buf.drop c.pos) with
      | some (t, _) => (some (.ok t),
          { c with pos := c.pos + (c.format.headerSize + t.payload.length) })
      | none => (some (.error .malformedTlv), { c with failed := true })) := by
  have hd : ¬ c.buf.length ≤ c.pos := Nat.not_le.mpr hp
  simp only [next, hf, hd, decide_false, Bool.or_false, Bool.false_eq_true, if_false,
    sliceFrom_of_le (Nat.le_of_lt hp), ok_bind]
  have hlen : (c.buf.drop c.pos).length = c.buf.length - c.pos := List.length_drop
  generalize c.buf.drop c.pos = rest at hlen
  by_cases hl : rest.length < c.format.headerSize
  · rw [if_pos hl, split?_of_lt hl]
    rfl
  · have hs := Nat.not_lt.mp hl
    obtain ⟨type, n, hn, hb, ht⟩ := split?_of_fields hs
    simp only [if_neg hl, hn, ok_bind, subSize_of_le hs, ht]
    by_cases hk : n ≤ rest.length - c.format.headerSize
    · have hr : c.format.headerSize + n ≤ rest.length := by omega
      have ha : addSize c.format.headerSize n = .ok _ := addSize_of_le (by omega)
      have ha' : addSize c.pos (c.format.headerSize + n) = .ok _ := addSize_of_le (by omega)
      have hp : ((rest.drop c.format.headerSize).take n).length = n :=
        List.length_take_of_le (by rwa [List.length_drop])
      simp only [if_neg (Nat.not_lt.mpr hk), ha, ha', ok_bind, if_pos hk,
        slice_of_le (Nat.le_add_right _ _) hr, Nat.add_sub_cancel_left, pure_eq_ok, hp]
    · rw [if_pos (Nat.not_le.mp hk), if_neg hk]
      rfl

theorem next_moves {c d : Cursor} {t : Tlv} (h : c.next = .ok (some (.ok t), d)) :
    d.buf = c.buf ∧ c.pos < c.buf.length ∧ c.pos < d.pos := by
  unfold next at h
  split at h
  · cases h
  · rename_i hn
    obtain ⟨rest, -, h⟩ := bind_eq_ok h
    dsimp only at h
    split at h
    · cases h
    · obtain ⟨⟨type, n⟩, -, h⟩ := bind_eq_ok h
      obtain ⟨k, -, h⟩ := bind_eq_ok h
      split at h
      · cases h
      · obtain ⟨m, hm, h⟩ := bind_eq_ok h
        obtain ⟨pos, hp, h⟩ := bind_eq_ok h
        obtain ⟨m', -, h⟩ := bind_eq_ok h
        obtain ⟨payload, -, h⟩ := bind_eq_ok h
        cases h
        have hs : 0 < c.format.headerSize := by cases c.format <;> decide
        have hpos := eq_of_addSize hp
        have hadd := eq_of_addSize hm
        simp only [Bool.or_eq_true, decide_eq_true_eq, not_or, Nat.not_le] at hn
        refine ⟨rfl, hn.2, ?_⟩
        simp only
        omega

def fold {β : Type} (f : β → Tlv → Except Fault β) (c : Cursor) (b : β) :
    Except Fault (Except DriverError β) :=
  match _h : c.next with
  | .error e => .error e
  | .ok (none, _) => .ok (.ok b)
  | .ok (some (.error e), _) => .ok (.error e)
  | .ok (some (.ok t), d) => do
    let b ← f b t
    fold f d b
termination_by c.buf.length - c.pos
decreasing_by
  obtain ⟨hb, hc, hd⟩ := next_moves _h
  rw [hb]
  omega

theorem fold_of_next {β : Type} {f : β → Tlv → Except Fault β} {c : Cursor}
    {r : Option (Except DriverError Tlv)} {d : Cursor} (h : c.next = .ok (r, d)) (b : β) :
    c.fold f b = match r with
      | none => .ok (.ok b)
      | some (.error e) => .ok (.error e)
      | some (.ok t) => f b t >>= d.fold f := by
  rw [fold]
  split
  all_goals
    rename_i hn
    rw [h] at hn
    cases hn
  · rfl
  · rfl
  · rfl

/-- Whatever an element is taken into, a fold over elements is a fold over what a walk finds. -/
theorem fold_agrees {β γ : Type} {f : β → Tlv → Except Fault β} {g : γ → Tlv → γ}
    {R : β → γ → Prop}
    (hf : ∀ b x t, t.type.toNat < 0x100 → R b x → ∃ b', f b t = .ok b' ∧ R b' (g x t))
    {c : Cursor} (hc : c.failed = false) (hb : c.format = .beacon) (hm : c.buf.length ≤ maxSlice)
    {b : β} {x : γ} (h : R b x) :
    match Tlv.parse .beacon (c.buf.drop c.pos) with
    | .ok ts => ∃ b', c.fold f b = .ok (.ok b') ∧ R b' (ts.foldl g x)
    | .error e => c.fold f b = .ok (.error e) := by
  obtain ⟨buf, pos, format, failed⟩ := c
  subst hc hb
  simp only at hm ⊢
  induction hn : buf.length - pos using Nat.strongRecOn generalizing pos b x with
  | _ n ih =>
    by_cases hp : buf.length ≤ pos
    · have hd : buf.drop pos = [] := List.drop_of_length_le hp
      have hw : Tlv.parse .beacon [] = .ok [] := by
        rw [Tlv.parse, Tlv.walk_nil]
        rfl
      rw [hd, hw]
      exact ⟨b, fold_of_next (next_of_end hp) b, h⟩
    · have hx := next_of_lt (c := ⟨buf, pos, .beacon, false⟩) rfl (Nat.not_le.mp hp) hm
      have hd : buf.drop pos ≠ [] := by
        rw [ne_eq, List.drop_eq_nil_iff]
        exact hp
      cases hs : Tlv.split? .beacon (buf.drop pos) with
      | none =>
        rw [hs] at hx
        rw [parse_of_not_split? hd hs, fold_of_next hx]
      | some r =>
        obtain ⟨t, rest⟩ := r
        rw [hs] at hx
        obtain ⟨b', hb', h'⟩ := hf b x t (type_lt_of_split? hs) h
        have hl := Tlv.length_of_split? hs
        have hr := rest_of_split? hs
        rw [List.drop_drop] at hr
        rw [List.length_drop] at hl
        have hi := ih _ (by simp only [Tlv.Format.headerSize] at hl ⊢; omega) h'
          (pos + (Tlv.Format.beacon.headerSize + t.payload.length)) rfl
        rw [← hr] at hi
        rw [parse_of_split? hs, fold_of_next hx]
        simp only [hb', ok_bind]
        cases hw : Tlv.parse .beacon rest <;> rw [hw] at hi <;> exact hi

end Cursor

def infer (capability : UInt16) (beacon : Bytes) : Except Fault (Except DriverError Security) := do
  match ← (Cursor.start .beacon beacon).fold refine .wep with
  | .error e => return .error e
  | .ok s => return .ok (if capability &&& Dot11.Capability.privacy = 0 then .unprotected else s)

namespace Descriptor

def absorb (d : Descriptor) (t : Tlv) : Except Fault Descriptor := do
  match ← elementId? t with
  | some .ssid =>
    let ssid ← slice t.payload 0 (min t.payload.length Dot11.maxSsid)
    return { d with fields := { d.fields with ssid } }
  | some .supportedRates => return { d with fields := { d.fields with rates := some t.payload } }
  | some .dsParams =>
    match t.payload.head? with
    | some channel => return { d with fields := { d.fields with channel } }
    | none => return d
  | some .rsn => return { d with fields := { d.fields with rsn := some t.payload } }
  | some .vendorSpecific =>
    if d.vendorCount < Bss.maxVendor then
      return { d with
        vendor := ← assign d.vendor d.vendorCount t.payload
        vendorCount := ← addSize d.vendorCount 1 }
    else return d
  | some .cfParams | none => return d

/-- Taking in an element never fails: there is a place for each vendor element that is kept. -/
theorem Shows.absorb {d : Descriptor} {b : Bss} {t : Tlv} (ht : t.type.toNat < 0x100)
    (h : d.Shows b) : ∃ d', d.absorb t = .ok d' ∧ d'.Shows (b.absorb t) := by
  unfold Descriptor.absorb Bss.absorb
  simp only [elementId?_of_lt ht, ok_bind]
  cases ElementId.ofCode? t.type.toUInt8 with
  | none => exact ⟨d, rfl, h⟩
  | some id =>
    cases id with
    | cfParams => exact ⟨d, rfl, h⟩
    | ssid =>
      have hs : slice t.payload 0 (min t.payload.length Dot11.maxSsid) =
          .ok (t.payload.take Dot11.maxSsid) := by
        rw [slice_zero (Nat.min_le_left _ _), Nat.min_comm, ← List.take_take, List.take_length]
      simp only [hs, ok_bind]
      exact ⟨_, rfl, by rw [h.fields], h.places, h.count, h.vendor⟩
    | supportedRates | rsn => exact ⟨_, rfl, by rw [h.fields], h.places, h.count, h.vendor⟩
    | dsParams =>
      cases hp : t.payload with
      | nil => exact ⟨d, rfl, h⟩
      | cons channel rest => exact ⟨_, rfl, by rw [h.fields]; rfl, h.places, h.count, h.vendor⟩
    | vendorSpecific =>
      dsimp only
      by_cases hc : d.vendorCount < Bss.maxVendor
      · have hl : d.vendorCount < d.vendor.length := by rwa [h.places]
        have hn : addSize d.vendorCount 1 = .ok (d.vendorCount + 1) :=
          addSize_of_small (by simp only [Bss.maxVendor] at hc; omega)
        rw [if_pos hc, if_pos (by rwa [← h.count])]
        simp only [assign, if_pos hl, hn, ok_bind]
        refine ⟨_, rfl, by rw [h.fields], ?_, ?_, ?_⟩
        · rw [List.length_set, h.places]
        · rw [List.length_append, ← h.count]
          rfl
        · rw [List.take_succ_eq_append_getElem (by rwa [List.length_set]), List.getElem_set_self,
            List.take_set_of_le (Nat.le_refl _), h.vendor]
      · rw [if_neg hc, if_neg (by rwa [← h.count])]
        exact ⟨d, rfl, h⟩

theorem fold_absorb {beacon : Bytes} (h : beacon.length ≤ maxSlice) {b : Bss} (hv : b.vendor = []) :
    match Tlv.parse .beacon beacon with
    | .ok ts => ∃ d, (Cursor.start .beacon beacon).fold absorb
        ⟨b, List.replicate Bss.maxVendor [], 0⟩ = .ok (.ok d) ∧ d.Shows (ts.foldl Bss.absorb b)
    | .error e => (Cursor.start .beacon beacon).fold absorb
        ⟨b, List.replicate Bss.maxVendor [], 0⟩ = .ok (.error e) := by
  have hs : Shows ⟨b, List.replicate Bss.maxVendor [], 0⟩ b := by
    obtain ⟨⟩ := b
    cases hv
    exact ⟨rfl, rfl, rfl, rfl⟩
  exact Cursor.fold_agrees (c := .start .beacon beacon) (fun _ _ _ ht ↦ Shows.absorb ht) rfl rfl h
    hs

end Descriptor

def network (raw : Bytes) : Except Fault (Except DriverError Bss) := do
  if raw.length < Bss.fixedSize then return .error .malformedFrame
  else
    let bssid ← macOf (← slice raw 0 Mac.size)
    let timestamp ← copyInto (List.replicate 8 0) 0 8 (← slice raw 7 15)
    let capability ← word raw 17
    let beacon ← sliceFrom raw Bss.fixedSize
    let fixed : Bss :=
      { bssid
        rssi := ← index raw 6
        timestamp := UInt64.ofNat (leNat timestamp)
        beaconInterval := ← word raw 15
        capability }
    match ← (Cursor.start .beacon beacon).fold Descriptor.absorb
      ⟨fixed, List.replicate Bss.maxVendor [], 0⟩ with
    | .error e => return .error e
    | .ok d =>
      match ← infer capability beacon with
      | .error e => return .error e
      | .ok security =>
        let vendor ← slice d.vendor 0 d.vendorCount
        return .ok { d.fields with vendor, security }

def splitNetwork (sets : Bytes) : Except Fault (Except DriverError (Bss × Bytes)) := do
  match range? sets 0 2 with
  | none => return .error .malformedFrame
  | some size =>
    let n := (← word size 0).toNat
    match range? sets 2 (← addSize 2 n) with
    | none => return .error .malformedFrame
    | some raw =>
      match ← network raw with
      | .error e => return .error e
      | .ok b => return .ok (b, ← sliceFrom sets (← addSize 2 n))

def networks (count : UInt8) (sets : Bytes) : Except Fault (List Bss × Option DriverError) :=
  if count = 0 then .ok ([], none)
  else
    match _h : sub8 count 1 with
    | .error e => .error e
    | .ok left => do
      match ← splitNetwork sets with
      | .error e => return ([], some e)
      | .ok (b, rest) =>
        let r ← networks left rest
        return (b :: r.1, r.2)
termination_by count.toNat
decreasing_by
  have := toNat_of_sub8 _h
  omega

def scanReport (body : Bytes) : Except Fault (Except DriverError ScanReport) := do
  if body.length < 3 then return .error .malformedFrame
  else return .ok ⟨← word body 0, ← index body 2, ← sliceFrom body 3⟩

theorem infer_eq {beacon : Bytes} (h : beacon.length ≤ maxSlice) (capability : UInt16) :
    infer capability beacon = .ok (Security.inferFrom capability beacon) := by
  have hf := Cursor.fold_agrees (f := refine) (g := Security.refine) (R := fun b x ↦ b = x)
    (c := .start .beacon beacon) (fun b x t ht hx ↦ ⟨_, refine_eq ht, by rw [hx]⟩) rfl rfl h
    (b := .wep) rfl
  simp only [Cursor.start, List.drop_zero] at hf
  unfold infer Security.inferFrom Security.infer
  cases hp : Tlv.parse .beacon beacon with
  | error e =>
    rw [hp] at hf
    simp only [Cursor.start, hf, ok_bind]
    rfl
  | ok ts =>
    rw [hp] at hf
    obtain ⟨s, hs, rfl⟩ := hf
    simp only [Cursor.start, hs, ok_bind]
    rfl

theorem network_eq {raw : Bytes} (h : raw.length ≤ maxSlice) :
    network raw = .ok (Bss.parse raw) := by
  unfold network Bss.parse
  by_cases hl : raw.length < Bss.fixedSize
  · have hu : raw.u16? 17 = none := by
      have hn : ¬ 17 + 2 ≤ raw.length := Nat.not_le.mpr hl
      simp only [Bytes.u16?, Bytes.slice?, if_neg hn, Option.map_none]
    simp only [if_pos hl, Bss.fixed?, hu, Option.bind_eq_bind, Option.bind_none,
      Option.bind_fun_none, pure_eq_ok]
  · rw [if_neg hl]
    have hl : 19 ≤ raw.length := Nat.not_lt.mp hl
    obtain ⟨bssid, hm, hf⟩ := fixed?_of_le hl
    have h₀ : slice raw 0 Mac.size = .ok (raw.take 6) :=
      slice_zero (Nat.le_trans (by decide) hl)
    have h₇ : slice raw 7 15 = .ok ((raw.drop 7).take 8) :=
      slice_of_le (by decide) (Nat.le_trans (by decide) hl)
    have ht : copyInto (List.replicate 8 0) 0 8 ((raw.drop 7).take 8) =
        .ok ((raw.drop 7).take 8) :=
      copyInto_whole rfl (List.length_take_of_le (by rw [List.length_drop]; omega))
    have hb : sliceFrom raw Bss.fixedSize = .ok (raw.drop Bss.fixedSize) := sliceFrom_of_le hl
    have h₁₅ : word raw 15 = .ok (ofLe16 raw[15] raw[16]) := word_of_lt _ (by decide)
    have h₁₇ : word raw 17 = .ok (ofLe16 raw[17] raw[18]) := word_of_lt _ (by decide)
    have h₆ : index raw 6 = .ok raw[6] := index_of_lt _
    have hd : (raw.drop Bss.fixedSize).length ≤ maxSlice := by
      rw [List.length_drop]
      omega
    simp only [h₀, hm, h₇, ht, hb, h₁₅, h₁₇, h₆, hf, ok_bind, infer_eq hd]
    generalize hb : ({ bssid, rssi := raw[6]
                       timestamp := UInt64.ofNat (leNat ((raw.drop 7).take 8))
                       beaconInterval := ofLe16 raw[15] raw[16]
                       capability := ofLe16 raw[17] raw[18] } : Bss) = b
    have ha := Descriptor.fold_absorb hd (b := b) (by rw [← hb])
    have hc : b.capability = ofLe16 raw[17] raw[18] := by rw [← hb]
    rw [← hc]
    simp only [Security.inferFrom]
    cases hp : Tlv.parse .beacon (raw.drop Bss.fixedSize) with
    | error e =>
      rw [hp] at ha
      simp only [ha, ok_bind]
      rfl
    | ok ts =>
      rw [hp] at ha
      obtain ⟨d, hd', hs⟩ := ha
      simp only [hd', ok_bind]
      simp only [pure, Except.pure, bind, Except.bind, hs.slice_vendor, hs.fields]

theorem splitNetwork_eq {sets : Bytes} (h : sets.length ≤ maxSlice) :
    splitNetwork sets = .ok (ScanReport.split sets) := by
  unfold splitNetwork ScanReport.split
  match sets with
  | [] | [_] => rfl
  | n₀ :: n₁ :: rest =>
    have hr : range? (n₀ :: n₁ :: rest) 0 2 = some [n₀, n₁] := if_pos ⟨by decide, by simp⟩
    have hw : word [n₀, n₁] 0 = .ok (ofLe16 n₀ n₁) := word_of_lt (Nat.le_refl 2) (by decide)
    have hn := (ofLe16 n₀ n₁).toNat_lt
    have ha : addSize 2 (ofLe16 n₀ n₁).toNat = .ok _ := addSize_of_small (by omega)
    simp only [hr, hw, ha, ok_bind, range?_eq_slice?, Bytes.slice?, List.length_cons,
      List.drop_succ_cons, List.drop_zero]
    by_cases hl : (ofLe16 n₀ n₁).toNat ≤ rest.length
    · have hl' : 2 + (ofLe16 n₀ n₁).toNat ≤ rest.length + 1 + 1 := by omega
      have ht : (rest.take (ofLe16 n₀ n₁).toNat).length ≤ maxSlice := by
        simp only [List.length_take, List.length_cons] at h ⊢
        omega
      have hs : sliceFrom (n₀ :: n₁ :: rest) (2 + (ofLe16 n₀ n₁).toNat) =
          .ok (rest.drop (ofLe16 n₀ n₁).toNat) := by
        rw [sliceFrom_of_le hl', Nat.add_comm]
        rfl
      simp only [if_pos hl, if_pos hl', network_eq ht, hs, ok_bind]
      cases Bss.parse (rest.take (ofLe16 n₀ n₁).toNat) <;> rfl
    · have hl' : ¬ 2 + (ofLe16 n₀ n₁).toNat ≤ rest.length + 1 + 1 := by omega
      simp only [if_neg hl, if_neg hl', pure_eq_ok]

theorem networks_eq {sets : Bytes} (h : sets.length ≤ maxSlice) (count : UInt8) :
    networks count sets = .ok (ScanReport.walk count.toNat sets) := by
  induction hn : count.toNat generalizing count sets with
  | zero =>
    have hc : count = 0 := UInt8.toNat_inj.mp hn
    rw [networks, if_pos hc]
    rfl
  | succ n ih =>
    have hc : ¬ count = 0 := by
      intro hz
      rw [hz] at hn
      cases hn
    rw [networks, if_neg hc]
    split
    · rename_i e hs
      rw [sub8_of_ne_zero hc] at hs
      cases hs
    · rename_i left hs
      have hleft := toNat_of_sub8 hs
      rw [splitNetwork_eq h, ScanReport.walk, ok_bind]
      cases hsp : ScanReport.split sets with
      | error e => rfl
      | ok r =>
        obtain ⟨b, rest⟩ := r
        simp only
        rw [ih (Nat.le_trans (length_le_of_split hsp) h) left (by omega)]
        rfl

theorem scanReport_eq (body : Bytes) : scanReport body = .ok (ScanReport.parse body) := by
  unfold scanReport ScanReport.parse
  match body with
  | [] | [_] | [_, _] => rfl
  | s₀ :: s₁ :: n :: sets =>
    have hl : ¬ (s₀ :: s₁ :: n :: sets).length < 3 := by simp
    have hf : sliceFrom (s₀ :: s₁ :: n :: sets) 3 = .ok sets := sliceFrom_of_le (by simp)
    have ha : addSize 0 1 = .ok 1 := addSize_of_small (by decide)
    simp only [if_neg hl, word, ha, ok_bind, index_zero, index_succ, hf, pure_eq_ok]

end SdioWlan.Checked
