import SdioWlan.DataFrame
import SdioWlan.Proofs.CommandFrame

namespace SdioWlan

theorem Packet.data_of_put? {p q : Packet} {bytes : Bytes} (h : p.put? bytes = some q) :
    q.data = p.data ++ bytes := by
  unfold put? at h
  split at h
  · cases h
    rfl
  · cases h

theorem Packet.data_of_push? {p q : Packet} {bytes : Bytes} (h : p.push? bytes = some q) :
    q.data = bytes ++ p.data := by
  unfold push? at h
  split at h
  · cases h
    rfl
  · cases h

theorem Role.ofCode?_eq_some_iff {v : UInt8} {r : Role} : ofCode? v = some r ↔ v = r.code := by
  constructor
  · intro h
    unfold ofCode? at h
    split at h
    · cases h
      assumption
    split at h
    · cases h
      assumption
    · cases h
  · rintro rfl
    exact ofCode?_code r

namespace DataFrame

variable {payload : Bytes} {role : Role} {p : Packet}

theorem build_data (h : build payload role = .ok p) :
    p.data = descriptor role payload.length ++ payload := by
  unfold build at h
  split at h
  · cases h
  split at h
  · cases h
  split at h
  · cases h
  · rename_i q hq
    split at h
    · cases h
    · rename_i r hr
      cases h
      rw [Packet.data_of_push? hr, Packet.data_of_put? hq]
      rfl

theorem length_le_of_build (h : build payload role = .ok p) :
    txDescriptorSize + payload.length ≤ maxFrame := by
  unfold build at h
  split at h
  · cases h
  split at h
  · cases h
  · rename_i hl
    exact Nat.not_lt.mp hl

theorem length_descriptor (role : Role) (n : Nat) :
    (descriptor role n).length = txDescriptorSize := by
  simp [descriptor, txDescriptorSize]

/-- A payload that fits into a frame is put into one. -/
theorem exists_build (hp : payload ≠ []) (h : txDescriptorSize + payload.length ≤ maxFrame)
    (role : Role) : ∃ p, build payload role = .ok p := by
  have hd := length_descriptor role payload.length
  have hr : payload.length ≤ maxFrame - txDescriptorSize :=
    Nat.le_sub_of_add_le (by rwa [Nat.add_comm])
  have ht : payload.length ≤ (Packet.withHeadroom maxFrame txDescriptorSize).tailroom.length := by
    rwa [Packet.withHeadroom, List.length_replicate]
  have hh : (descriptor role payload.length).length ≤
      (Packet.withHeadroom maxFrame txDescriptorSize).headroom.length := by
    rw [hd, Packet.withHeadroom, List.length_replicate]
    decide
  rw [build, if_neg hp, if_neg (Nat.not_lt.mpr h), Packet.put?, if_pos ht]
  simp only [Packet.push?, if_pos hh]
  exact ⟨_, rfl⟩

theorem commandOf?_build (h : build payload role = .ok p) : commandOf? p.data = none := by
  rw [build_data h]
  rfl

theorem kind_build (h : build payload role = .ok p) : p.data[2]? = some FrameKind.data.code := by
  rw [build_data h]
  rfl

/-- What was put into a frame is read out of it. -/
theorem parse_build (h : build payload role = .ok p) : parse p.data = .ok ⟨role, payload⟩ := by
  have hl := length_le_of_build h
  simp only [txDescriptorSize, maxFrame] at hl
  have hnat : (UInt16.ofNat payload.length).toNat = payload.length :=
    UInt16.toNat_ofNat_of_lt' (by simp only [UInt16.size]; omega)
  have hn : leBytes 2 payload.length = le16 (UInt16.ofNat payload.length) := by rw [le16, hnat]
  let start := leBytes 2 (txDescriptorSize + payload.length) ++
    le16 FrameKind.data.code.toUInt16 ++ [role.code, 0]
  let tail := List.replicate 10 0 ++ payload
  have hp : p.data = start ++ (le16 (UInt16.ofNat payload.length) ++ (le16 16 ++ tail)) := by
    rw [build_data h, descriptor, hn]
    simp only [start, tail, List.append_assoc]
    rfl
  have hrole : p.data[4]? = some role.code := by
    rw [hp]
    rfl
  have hsize : p.data.u16? 6 = some (UInt16.ofNat payload.length) := by
    rw [hp]
    exact Bytes.u16?_append rfl _ _
  have hoffset : p.data.u16? 8 = some 16 := by
    rw [hp, ← List.append_assoc]
    exact Bytes.u16?_append rfl _ _
  have hpayload : p.data.slice? txDescriptorSize payload.length = some payload := by
    have hs := Bytes.slice?_append (length_descriptor role payload.length) payload []
    rwa [List.append_nil, ← build_data h] at hs
  have hf : parse.fields? p.data = some ⟨role, payload⟩ := by
    simp only [parse.fields?, hrole, hsize, hoffset, Option.bind_eq_bind, Option.bind_some,
      Role.ofCode?_code]
    have hat : frameHeaderSize + (16 : UInt16).toNat = txDescriptorSize := rfl
    rw [hnat, hat, hpayload]
    rfl
  rw [parse, hf]

def word (frame : Bytes) (off : Nat) : Nat := leNat ((frame.drop off).take 2)

/-- A frame has a whole descriptor, is of one of the two interfaces, and reaches as far as the
offset and the length in its descriptor say. -/
structure WellFormed (frame : Bytes) : Prop where
  whole : 10 ≤ frame.length
  interface : frame[4]? = some 0 ∨ frame[4]? = some 1
  reaches : 4 + word frame 8 + word frame 6 ≤ frame.length

theorem toNat_of_u16? {frame : Bytes} {off : Nat} {v : UInt16} (h : frame.u16? off = some v) :
    v.toNat = word frame off := by
  rw [word, ← (Bytes.u16?_eq_some_iff.mp h).2, leNat_le16]

theorem interface_iff {frame : Bytes} :
    (frame[4]? = some 0 ∨ frame[4]? = some 1) ↔ ∃ r : Role, frame[4]? = some r.code := by
  constructor
  · rintro (h | h)
    · exact ⟨.sta, h⟩
    · exact ⟨.uap, h⟩
  · rintro ⟨r, h⟩
    cases r with
    | sta => exact .inl h
    | uap => exact .inr h

/-- What is read out of a frame lies where its descriptor says, and only of a well-formed frame is
anything read. -/
theorem parse_eq_ok_iff {frame : Bytes} {r : Received} :
    parse frame = .ok r ↔ WellFormed frame ∧ frame[4]? = some r.role.code ∧
      r.payload = (frame.drop (4 + word frame 8)).take (word frame 6) := by
  have hf : parse frame = .ok r ↔ parse.fields? frame = some r := by
    unfold parse
    cases parse.fields? frame <;> simp
  rw [hf]
  constructor
  · intro h
    simp only [parse.fields?, Option.bind_eq_bind, Option.bind_eq_some_iff, Option.pure_def,
      Option.some.injEq] at h
    obtain ⟨v, hv, role, hr, n, hn, offset, ho, payload, hp, rfl⟩ := h
    obtain ⟨hl, hp⟩ := Bytes.slice?_eq_some_iff.mp hp
    have hrole := Role.ofCode?_eq_some_iff.mp hr
    rw [toNat_of_u16? hn, toNat_of_u16? ho] at hl hp
    rw [hrole] at hv
    exact ⟨⟨(Bytes.u16?_eq_some_iff.mp ho).1, interface_iff.mpr ⟨role, hv⟩, hl⟩, hv, hp⟩
  · rintro ⟨⟨hw, -, hl⟩, hr, hp⟩
    obtain ⟨n, hn, -⟩ := Bytes.exists_u16? (show 6 + 2 ≤ frame.length by omega)
    obtain ⟨offset, ho, -⟩ := Bytes.exists_u16? hw
    have hs : frame.slice? (frameHeaderSize + offset.toNat) n.toNat = some r.payload := by
      rw [toNat_of_u16? hn, toNat_of_u16? ho]
      exact Bytes.slice?_eq_some_iff.mpr ⟨hl, hp⟩
    simp only [parse.fields?, hr, hn, ho, hs, Option.bind_eq_bind, Option.bind_some,
      Role.ofCode?_code]
    rfl

theorem exists_parse_iff {frame : Bytes} : (∃ r, parse frame = .ok r) ↔ WellFormed frame := by
  constructor
  · rintro ⟨r, h⟩
    exact (parse_eq_ok_iff.mp h).1
  · intro h
    obtain ⟨role, hr⟩ := interface_iff.mp h.interface
    exact ⟨⟨role, _⟩, parse_eq_ok_iff.mpr ⟨h, hr, rfl⟩⟩

theorem exists_build_iff {payload : Bytes} {role : Role} :
    (∃ p, build payload role = .ok p) ↔ 1 ≤ payload.length ∧ payload.length ≤ 2028 := by
  constructor
  · rintro ⟨p, h⟩
    have hl := length_le_of_build h
    simp only [txDescriptorSize, maxFrame] at hl
    have hn : payload ≠ [] := by
      rintro rfl
      cases h
    have hp := List.length_pos_iff.mpr hn
    omega
  · rintro ⟨h₁, h₂⟩
    apply exists_build (List.length_pos_iff.mp h₁)
    simp only [txDescriptorSize, maxFrame]
    omega

structure Built (frame payload : Bytes) : Prop where
  length_eq : frame.length = 20 + payload.length
  size : word frame 0 = 20 + payload.length
  kind : word frame 2 = FrameKind.data.code.toNat
  zero : frame[5]? = some 0
  zeros : (frame.drop 10).take 10 = List.replicate 10 0

theorem built_of_build (h : build payload role = .ok p) : Built p.data payload := by
  have hl := length_le_of_build h
  simp only [txDescriptorSize, maxFrame] at hl
  have hlt : 20 + payload.length < 65536 := by omega
  rw [build_data h]
  refine ⟨?_, leNat_leBytes 2 _ hlt, rfl, rfl, rfl⟩
  rw [List.length_append, length_descriptor, txDescriptorSize]

/-- Building and reading frames agree. Any payload of 1 to 2028 bytes is put into a frame, and read
out of it with the interface that it was put there for. Of any byte string, what the descriptor
names is read if it is there. -/
theorem frames_agree (payload : Bytes) (role : Role) (frame : Bytes) :
    ((∃ p, build payload role = .ok p) ↔ 1 ≤ payload.length ∧ payload.length ≤ 2028) ∧
    (∀ p, build payload role = .ok p →
      Built p.data payload ∧ parse p.data = .ok ⟨role, payload⟩) ∧
    ((∃ r, parse frame = .ok r) ↔ WellFormed frame) ∧
    (∀ r, parse frame = .ok r → frame[4]? = some r.role.code ∧
      r.payload = (frame.drop (4 + word frame 8)).take (word frame 6)) :=
  ⟨exists_build_iff, fun _ h ↦ ⟨built_of_build h, parse_build h⟩, exists_parse_iff,
    fun _ h ↦ (parse_eq_ok_iff.mp h).2⟩

namespace Received

/-- A frame is for this host: the station's are, and of the access point's those that are too short
for an address, those for a group and those for its own address. -/
def Delivers (r : Received) (own : Mac) : Prop :=
  r.role = .sta ∨ r.role = .uap ∧ (r.payload.length < Mac.size ∨ isMulticast r.payload = true ∨
    r.payload.take Mac.size = own.toBytes)

def Forwards (r : Received) (own : Mac) : Prop :=
  r.role = .uap ∧ Mac.size ≤ r.payload.length ∧
    (isMulticast r.payload = true ∨ r.payload.take Mac.size ≠ own.toBytes)

instance (r : Received) (own : Mac) : Decidable (r.Delivers own) :=
  inferInstanceAs (Decidable (_ ∨ _))

instance (r : Received) (own : Mac) : Decidable (r.Forwards own) :=
  inferInstanceAs (Decidable (_ ∧ _))

theorem isMulticast_take (bytes : Bytes) :
    isMulticast (bytes.take Mac.size) = isMulticast bytes := by
  cases bytes <;> rfl

theorem dest?_of_le {r : Received} (h : Mac.size ≤ r.payload.length) :
    r.dest? = some (r.payload.take Mac.size) := by
  rw [dest?, Bytes.slice?, if_pos (by rwa [Nat.zero_add]), List.drop_zero]

/-- The route of a frame is to whomever it is for. -/
theorem route_iff (r : Received) (own : Mac) :
    ((r.route own).delivers = true ↔ r.Delivers own) ∧
      ((r.route own).forwards = true ↔ r.Forwards own) := by
  cases hr : r.role with
  | sta =>
    have hd : r.route own = .deliver := by rw [route, hr]
    simp [hd, Route.delivers, Route.forwards, Delivers, Forwards, hr]
  | uap =>
    by_cases hl : Mac.size ≤ r.payload.length
    · have hd : r.route own = .ofDest (r.payload.take Mac.size) own := by
        rw [route, hr, dest?_of_le hl]
      have hm := isMulticast_take r.payload
      rw [hd, Route.ofDest, hm]
      by_cases hg : isMulticast r.payload = true
      · simp [hg, hl, Route.delivers, Route.forwards, Delivers, Forwards, hr]
      by_cases ho : r.payload.take Mac.size = own.toBytes
      · simp [hg, ho, Route.delivers, Route.forwards, Delivers, Forwards, hr]
      · simp [hg, ho, hl, Route.delivers, Route.forwards, Delivers, Forwards, hr]
    · have hd : r.route own = .deliver := by
        have hs : r.dest? = none := by
          rw [dest?, Bytes.slice?, if_neg (by rwa [Nat.zero_add])]
        rw [route, hr, hs]
      have hlt := Nat.not_le.mp hl
      simp [hd, hl, hlt, Route.delivers, Route.forwards, Delivers, Forwards, hr]

end Received

end DataFrame

end SdioWlan
