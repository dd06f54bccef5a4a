import SdioWlan.Command
import SdioWlan.Proofs.Checked.Building
import SdioWlan.Proofs.Checked.Fields
import SdioWlan.Proofs.DataFrame

namespace SdioWlan.Checked

theorem fit_of_length_eq {b : Bytes} {n : Nat} (h : b.length = n) : b.fit n = b := by
  rw [Bytes.fit, h, Nat.sub_self, List.replicate_zero, List.append_nil, ← h, List.take_length]

theorem sub16_ofNat {n k : Nat} (h : k ≤ n) (hn : n < 0x10000) :
    sub16 (UInt16.ofNat n) (UInt16.ofNat k) = .ok (UInt16.ofNat (n - k)) := by
  have hk : UInt16.ofNat k ≤ UInt16.ofNat n := by
    rw [UInt16.le_iff_toNat_le, UInt16.toNat_ofNat_of_lt' (Nat.lt_of_le_of_lt h hn),
      UInt16.toNat_ofNat_of_lt' hn]
    exact h
  rw [sub16, if_pos hk, UInt16.ofNat_sub h]

def client (payload : Bytes) : Built Mac :=
  match range? payload 0 Mac.size with
  | none => throw .invalidParam
  | some s => (macOf s : Except Fault Mac)

theorem client_eq (payload : Bytes) :
    client payload = ExceptT.mk (.ok (Command.client payload)) := by
  unfold client Command.client
  by_cases h : 6 ≤ payload.length
  · obtain ⟨m, hm, ho⟩ := macOf_take h
    have hr : range? payload 0 Mac.size = some (payload.take 6) :=
      if_pos ⟨Nat.zero_le _, h⟩
    simp only [hr, hm, ho]
    rfl
  · have hr : range? payload 0 Mac.size = none := if_neg fun hn ↦ h hn.2
    simp only [hr, ofBytes?_of_lt (Nat.not_le.mp h)]
    rfl

def descriptor (room : Bytes) (role : Role) (total n : Nat) : Except Fault Bytes := do
  let h : Bytes := List.replicate room.length 0
  let h ← copyInto h 0 2 (le16 (← narrow16 total))
  let h ← copyInto h 2 4 (le16 FrameKind.data.code.toUInt16)
  let h ← assign h 4 role.code
  let h ← assign h 5 0
  let h ← copyInto h 6 8 (le16 (← narrow16 n))
  copyInto h 8 10 (leBytes 2 DataFrame.payloadOffset)

theorem descriptor_eq {room : Bytes} (hr : room.length = txDescriptorSize) (role : Role) {n : Nat}
    (h : txDescriptorSize + n < 0x10000) :
    descriptor room role (txDescriptorSize + n) n = .ok (DataFrame.descriptor role n) := by
  have hn : narrow16 (txDescriptorSize + n) = .ok _ := if_pos h
  have hn' : narrow16 n = .ok _ := if_pos (Nat.lt_of_le_of_lt (Nat.le_add_left _ _) h)
  have hw {k : Nat} (hk : k < 0x10000) : le16 (UInt16.ofNat k) = leBytes 2 k := by
    rw [le16, UInt16.toNat_ofNat_of_lt' hk]
  have hl : (List.replicate txDescriptorSize (0 : UInt8)).length = 20 := rfl
  have hd : (List.replicate txDescriptorSize (0 : UInt8)).drop 10 = List.replicate 10 0 := rfl
  rw [descriptor, hr]
  generalize List.replicate txDescriptorSize (0 : UInt8) = b at hl hd
  have h₀ : copyInto b 0 2 (le16 (UInt16.ofNat (txDescriptorSize + n))) =
      .ok (le16 (UInt16.ofNat (txDescriptorSize + n)) ++ b.drop 2) :=
    copyInto_start rfl (by omega)
  simp (disch := first | omega | simp) only [hn, hn', h₀, copyInto_drop, assign_drop, ok_bind,
    Nat.reduceAdd]
  rw [hd, hw h, hw (Nat.lt_of_le_of_lt (Nat.le_add_left _ _) h)]
  simp only [DataFrame.descriptor, List.append_assoc]
  rfl

variable [Machine]

structure Writer where
  buf : Bytes
  off : Nat

def Writer.bytes (w : Writer) (b : Bytes) : Except Fault Writer := do
  let off ← addSize w.off b.length
  return ⟨← copyInto w.buf w.off off b, off⟩

/-- A command with a zeroed body of `n` bytes, over which the parts are written from its start. -/
def withBody (id : CommandId) (n : Nat) (parts : List Bytes) : Built Command :=
  if maxBody < n then throw .tooLarge
  else do
    let body ← slice (List.replicate maxBody 0) 0 n
    let w ← (parts.foldlM Writer.bytes ⟨body, 0⟩ : Except Fault Writer)
    Command.ofBody id w.buf

theorem foldlM_bytes {pre rest : Bytes} {parts : List Bytes}
    (hm : pre.length + rest.length ≤ maxSlice) (h : parts.flatten.length ≤ rest.length) :
    parts.foldlM Writer.bytes ⟨pre ++ rest, pre.length⟩ =
      .ok ⟨pre ++ parts.flatten ++ rest.drop parts.flatten.length,
        pre.length + parts.flatten.length⟩ := by
  induction parts generalizing pre rest with
  | nil =>
    rw [List.flatten_nil, List.append_nil]
    rfl
  | cons p parts ih =>
    rw [List.flatten_cons, List.length_append] at h ⊢
    have ha : addSize pre.length p.length = .ok (pre.length + p.length) :=
      addSize_of_le (by omega)
    have hc : copyInto (pre ++ rest) pre.length (pre.length + p.length) p =
        .ok (pre ++ p ++ rest.drop p.length) := copyInto_append rfl rfl (by omega)
    have hi : parts.foldlM Writer.bytes
        ⟨(pre ++ p) ++ rest.drop p.length, (pre ++ p).length⟩ = .ok _ :=
      ih (by rw [List.length_append, List.length_drop]; omega) (by rw [List.length_drop]; omega)
    rw [List.length_append, List.drop_drop] at hi
    rw [List.foldlM_cons]
    simp only [Writer.bytes, ha, hc, ok_bind, pure_eq_ok]
    rw [hi, List.append_assoc pre, Nat.add_assoc]

/-- What is written stays inside of what was reserved, and what is not written stays zero. -/
theorem withBody_eq (id : CommandId) {n : Nat} {parts : List Bytes} (h : parts.flatten.length ≤ n) :
    withBody id n parts = ExceptT.mk (.ok (Command.ofSize id n parts.flatten)) := by
  unfold withBody Command.ofSize
  by_cases hn : maxBody < n
  · rw [if_pos hn, if_neg (Nat.not_le.mpr hn)]
    rfl
  · have hle := Nat.not_lt.mp hn
    have hm : n ≤ maxSlice := Nat.le_trans hle (Nat.le_trans (by decide) le_maxSlice)
    have hs : slice (List.replicate maxBody (0 : UInt8)) 0 n = .ok (List.replicate n 0) := by
      rw [slice_zero (by rwa [List.length_replicate]), List.take_replicate, Nat.min_eq_left hle]
    have hf : parts.foldlM Writer.bytes
        ⟨[] ++ List.replicate n 0, ([] : Bytes).length⟩ = .ok _ :=
      foldlM_bytes (by rwa [List.length_nil, List.length_replicate, Nat.zero_add])
        (by rwa [List.length_replicate])
    rw [List.nil_append, List.nil_append, List.length_nil, List.drop_replicate] at hf
    have hb : parts.flatten ++ List.replicate (n - parts.flatten.length) 0 =
        Bytes.fit parts.flatten n := by
      rw [Bytes.fit, List.take_of_length_le h]
    rw [hb] at hf
    rw [if_neg hn, if_pos hle, hs, Built.lift_bind, hf, Built.lift_bind]
    rfl

theorem withBody_of_eq (id : CommandId) {n : Nat} {parts : List Bytes} {body : Bytes}
    (hb : parts.flatten = body) (h : body.length = n) :
    withBody id n parts = ExceptT.mk (.ok (Command.ofBody id body)) := by
  rw [withBody_eq id (Nat.le_of_eq (by rw [hb, h])), Command.ofSize, hb, fit_of_length_eq h]
  split
  · rfl
  · rw [Command.ofBody, dif_neg (by rwa [h])]

def encode (id : CommandId) (action : CommandAction) (payload : Bytes) (peer : Peer) :
    Built Command :=
  match id with
  | .getHwSpec => withBody id Command.hwSpecSize []
  | .scan => do
    let n ← addSize (1 + Mac.size) payload.length
    withBody id n [[Command.anyBssMode], List.replicate Mac.size 0, payload]
  | .associate => do
    let n ← addSize (Mac.size + 7) payload.length
    withBody id n [peer.bssid.toBytes, le16 peer.capability, le16 Command.listenInterval,
      le16 Command.beaconPeriod, [0], payload]
  | .deauthenticate =>
    withBody id (Mac.size + 2) [peer.bssid.toBytes, le16 Dot11.Reason.stationLeaving]
  | .macControl => do
    let bits ← match payload with
      | [] => pure MacControl.default
      | lo :: hi :: _ => pure (ofLe16 lo hi)
      | [_] => throw .invalidParam
    withBody id 4 [le16 bits, le16 0]
  | .macAddr => do
    let m ← match action with
      | .get => pure Mac.zero
      | .set => client payload
    withBody id (2 + Mac.size) [le16 action.code, m.toBytes]
  | .funcInit | .funcShutdown | .bssStart | .bssStop => withBody id 0 []
  | .sysConfigure => do
    let n ← addSize 2 payload.length
    withBody id n [le16 action.code, payload]
  | .staDeauth => do
    let m ← client payload
    withBody id (Mac.size + 2) [m.toBytes, le16 Dot11.Reason.deauthLeaving]
  | .supplicantPmk => do
    let n ← addSize 4 payload.length
    withBody id n [le16 action.code, le16 0, payload]
  | .addbaRsp => do
    match ← blockAck payload with
    | none => throw .malformedFrame
    | some r =>
      withBody id 16 [[0], r.peer.toBytes, [r.token], le16 0, le16 r.params, le16 r.timeout,
        le16 r.start]
  | .unknown _ => throw .invalidParam

theorem encode_eq {payload : Bytes} (h : payload.length ≤ maxSlice) (id : CommandId)
    (action : CommandAction) (peer : Peer) :
    encode id action payload peer = ExceptT.mk (.ok (Command.encode id action payload peer)) := by
  have ha {k : Nat} (hk : k ≤ 13) : addSize k payload.length = .ok (k + payload.length) := by
    have hm := le_maxSlice
    exact if_pos (by omega)
  cases id with
  | getHwSpec => exact withBody_eq _ (by decide)
  | funcInit | funcShutdown | bssStart | bssStop => exact withBody_eq _ (by decide)
  | unknown code => rfl
  | deauthenticate => exact withBody_of_eq _ rfl rfl
  | scan =>
    simp only [encode, ha (k := 1 + Mac.size) (by decide), Built.lift_bind]
    exact withBody_of_eq _ (by simp [Mac.zero, Mac.size, Mac.toBytes]) (by simp [Mac.size]; omega)
  | associate =>
    simp only [encode, ha (k := Mac.size + 7) (by decide), Built.lift_bind]
    exact withBody_of_eq _ (by simp) (by simp [Mac.size]; omega)
  | sysConfigure =>
    simp only [encode, ha (k := 2) (by decide), Built.lift_bind]
    exact withBody_of_eq _ (by simp) (by simp)
  | supplicantPmk =>
    simp only [encode, ha (k := 4) (by decide), Built.lift_bind]
    exact withBody_of_eq _ (by simp) (by simp; omega)
  | macControl =>
    rcases payload with _ | ⟨lo, _ | ⟨hi, rest⟩⟩
    · simp only [encode, pure_bind]
      exact withBody_of_eq _ rfl rfl
    · rfl
    · simp only [encode, pure_bind]
      exact withBody_of_eq _ rfl rfl
  | macAddr =>
    cases action with
    | get =>
      simp only [encode, pure_bind]
      exact withBody_of_eq _ rfl rfl
    | set =>
      simp only [encode, client_eq, Built.ok_bind, Command.encode, Command.bodyOf]
      cases Command.client payload with
      | error e => rfl
      | ok m => exact withBody_of_eq _ rfl rfl
  | staDeauth =>
    simp only [encode, client_eq, Built.ok_bind, Command.encode, Command.bodyOf]
    cases Command.client payload with
    | error e => rfl
    | ok m => exact withBody_of_eq _ rfl rfl
  | addbaRsp =>
    simp only [encode, blockAck_eq, Built.lift_bind, Command.encode, Command.bodyOf]
    cases Reply.blockAck? payload with
    | none => rfl
    | some r => exact withBody_of_eq _ rfl rfl

def serialize (c : Command) (buf : Bytes) : Built (Nat × Bytes) := do
  let total ← addSize CommandHeader.length c.body.length
  if buf.length < total then throw .tooLarge
  else
    let n ← narrow16 total
    let size ← sub16 n (UInt16.ofNat frameHeaderSize)
    let bss ← shl8 c.role.code 4
    let buf ← copyInto buf 0 2 (le16 n)
    let buf ← copyInto buf 2 4 (le16 FrameKind.command.code.toUInt16)
    let buf ← copyInto buf 4 6 (le16 c.id.code)
    let buf ← copyInto buf 6 8 (le16 size)
    let buf ← copyInto buf 8 10 (le16 0)
    let buf ← assign buf 10 bss
    let buf ← assign buf 11 0
    let body ← slice (c.body.fit maxBody) 0 c.body.length
    let buf ← copyInto buf CommandHeader.length total body
    return (total, buf)

theorem serialize_eq (c : Command) (buf : Bytes) :
    serialize c buf = ExceptT.mk (.ok (c.writeTo buf)) := by
  have hle : c.frameLength ≤ maxFrame := c.frameLength_le
  have ha : addSize CommandHeader.length c.body.length = .ok c.frameLength :=
    addSize_of_small (Nat.le_trans hle (by decide))
  have hlt : c.frameLength < 0x10000 := Nat.lt_of_le_of_lt hle (by decide)
  have hn : narrow16 c.frameLength = .ok (UInt16.ofNat c.frameLength) := if_pos hlt
  have h₁₂ : CommandHeader.length ≤ c.frameLength := Nat.le_add_right _ _
  have hs : sub16 (UInt16.ofNat c.frameLength) (UInt16.ofNat frameHeaderSize) = .ok _ :=
    sub16_ofNat (Nat.le_trans (by decide) h₁₂) hlt
  have hr : shl8 c.role.code 4 = .ok (c.role.code <<< 4) := if_pos (by decide)
  have hb : slice (c.body.fit maxBody) 0 c.body.length = .ok c.body := by
    rw [Bytes.fit, List.take_of_length_le c.body_le]
    exact slice_left rfl
  simp only [serialize, ha, Built.lift_bind, Command.writeTo]
  by_cases h : c.frameLength ≤ buf.length
  · rw [if_neg (Nat.not_lt.mpr h), if_pos h]
    simp only [hn, hs, hr, hb, Built.lift_bind]
    have hl : CommandHeader.length ≤ buf.length := Nat.le_trans h₁₂ h
    simp only [CommandHeader.length] at hl
    have h₀ : copyInto buf 0 2 (le16 (UInt16.ofNat c.frameLength)) =
        .ok (le16 (UInt16.ofNat c.frameLength) ++ buf.drop 2) :=
      copyInto_start rfl (by omega)
    have hf : c.frameLength = 12 + c.body.length := rfl
    simp (disch := first | omega | simp) only [h₀, copyInto_drop, assign_drop, Built.lift_bind,
      CommandHeader.length, Nat.reduceAdd]
    simp only [Command.frame, Command.header, CommandHeader.toBytes, List.append_assoc]
    rfl
  · rw [if_pos (Nat.not_le.mp h), if_neg h]
    rfl

/-- A packet in one buffer: the data is `len` bytes from `head` on. -/
structure Buffer where
  storage : Bytes
  head : Nat
  len : Nat

namespace Buffer

def withHeadroom (capacity headroom : Nat) : Buffer :=
  ⟨List.replicate capacity 0, min headroom capacity, 0⟩

def tailroom (p : Buffer) : Except Fault Nat := do
  subSize (← subSize p.storage.length p.head) p.len

def data (p : Buffer) : Except Fault Bytes := do
  slice p.storage p.head (← addSize p.head p.len)

def put? (p : Buffer) (n : Nat) : Except Fault (Option (Nat × Buffer)) := do
  if (← p.tailroom) < n then return none
  else
    let start ← addSize p.head p.len
    return some (start, { p with len := ← addSize p.len n })

def push? (p : Buffer) (n : Nat) : Except Fault (Option (Nat × Buffer)) := do
  if p.head < n then return none
  else
    let head ← subSize p.head n
    return some (head, { p with head, len := ← addSize p.len n })

def write (p : Buffer) (start : Nat) (bytes : Bytes) : Except Fault Buffer := do
  return { p with storage := ← copyInto p.storage start (← addSize start bytes.length) bytes }

end Buffer

def assemble (payload : Bytes) (role : Role) (total : Nat) : Built Bytes := do
  match ← (Buffer.withHeadroom maxFrame txDescriptorSize).put? payload.length with
  | none => throw .tooLarge
  | some (start, p) =>
    let p ← p.write start payload
    match ← p.push? txDescriptorSize with
    | none => throw .tooLarge
    | some (start, p) =>
      let room ← slice p.storage start (← addSize start txDescriptorSize)
      let p ← p.write start (← descriptor room role total payload.length)
      p.data

def buildFrame (payload : Bytes) (role : Role) : Built Bytes :=
  if payload = [] then throw .invalidParam
  else do
    let total ← addSize txDescriptorSize payload.length
    if maxFrame < total then throw .tooLarge else assemble payload role total

namespace Buffer

variable {p : Buffer} {n : Nat}

theorem put?_of_le (h : p.head + p.len + n ≤ p.storage.length) (hm : p.storage.length ≤ maxSlice) :
    p.put? n = .ok (some (p.head + p.len, { p with len := p.len + n })) := by
  have h₁ : subSize p.storage.length p.head = .ok _ := subSize_of_le (by omega)
  have h₂ : subSize (p.storage.length - p.head) p.len = .ok _ := subSize_of_le (by omega)
  have hn : ¬ p.storage.length - p.head - p.len < n := by omega
  have h₃ : addSize p.head p.len = .ok _ := addSize_of_le (by omega)
  have h₄ : addSize p.len n = .ok _ := addSize_of_le (by omega)
  simp only [put?, tailroom, h₁, h₂, h₃, h₄, ok_bind, if_neg hn, pure_eq_ok]

theorem put?_withHeadroom {size room : Nat} (h : room + n ≤ size) (hm : size ≤ maxSlice) :
    (withHeadroom size room).put? n =
      .ok (some (room, ⟨List.replicate size 0, room, n⟩)) := by
  have hl : (List.replicate size (0 : UInt8)).length = size := List.length_replicate
  have hn : min room size = room := Nat.min_eq_left (Nat.le_trans (Nat.le_add_right _ _) h)
  have hp := put?_of_le (p := withHeadroom size room) (n := n)
    (by rw [withHeadroom, hl, hn]; exact h) (by rwa [withHeadroom, hl])
  simpa only [withHeadroom, hn, Nat.zero_add, Nat.add_zero] using hp

theorem push?_of_le (h : n ≤ p.head) (hm : p.len + n ≤ maxSlice) :
    p.push? n = .ok (some (p.head - n, { p with head := p.head - n, len := p.len + n })) := by
  simp only [push?, if_neg (Nat.not_lt.mpr h), subSize_of_le h, addSize_of_le hm, ok_bind,
    pure_eq_ok]

theorem write_of_eq {pre room rest bytes : Bytes} {start : Nat}
    (hs : p.storage = pre ++ (room ++ rest)) (hp : start = pre.length)
    (hl : room.length = bytes.length) (hm : p.storage.length ≤ maxSlice) :
    p.write start bytes = .ok { p with storage := pre ++ (bytes ++ rest) } := by
  rw [hs, List.length_append, List.length_append, hl] at hm
  have ha : addSize start bytes.length = .ok _ := addSize_of_le (by omega)
  have hc : copyInto (pre ++ (room ++ rest)) start (start + bytes.length) bytes =
      .ok (pre ++ bytes ++ (room ++ rest).drop bytes.length) :=
    copyInto_append hp (by rw [hp]) (by rw [List.length_append, hl]; exact Nat.le_add_right _ _)
  have hd : (room ++ rest).drop bytes.length = rest := by rw [← hl, List.drop_left]
  simp only [write, ha, ok_bind, hs, hc, hd, pure_eq_ok, List.append_assoc]

theorem write_start {room rest bytes : Bytes} (hs : p.storage = room ++ rest)
    (hl : room.length = bytes.length) (hm : p.storage.length ≤ maxSlice) :
    p.write 0 bytes = .ok { p with storage := bytes ++ rest } := by
  have hn : p.storage = [] ++ (room ++ rest) := hs
  have hw := write_of_eq hn rfl hl hm
  rwa [List.nil_append] at hw

/-- Bytes that are pushed into all of the headroom come to stand in front of the others. -/
theorem push?_all {storage : Bytes} {room len : Nat} (hm : room + len ≤ maxSlice) :
    push? ⟨storage, room, len⟩ room = .ok (some (0, ⟨storage, 0, len + room⟩)) := by
  have hp := push?_of_le (p := ⟨storage, room, len⟩) (Nat.le_refl room) (by rwa [Nat.add_comm])
  simpa only [Nat.sub_self] using hp

/-- A packet whose data starts the buffer. -/
theorem data_of_append {bytes rest : Bytes} (hs : p.storage = bytes ++ rest) (hh : p.head = 0)
    (hl : p.len = bytes.length) (hm : p.storage.length ≤ maxSlice) : p.data = .ok bytes := by
  rw [hs, List.length_append] at hm
  have ha : addSize p.head p.len = .ok _ := addSize_of_le (by omega)
  rw [data, ha, ok_bind, hs, hh, Nat.zero_add]
  exact slice_left hl

end Buffer

theorem assemble_eq {payload : Bytes} (h : txDescriptorSize + payload.length ≤ maxFrame)
    (role : Role) : assemble payload role (txDescriptorSize + payload.length) =
      ExceptT.mk (.ok (.ok (DataFrame.descriptor role payload.length ++ payload))) := by
  have hm : maxFrame ≤ maxSlice := Nat.le_trans (by decide) le_maxSlice
  have hz : List.replicate maxFrame (0 : UInt8) = List.replicate txDescriptorSize 0 ++
      (List.replicate payload.length 0 ++
        List.replicate (maxFrame - (txDescriptorSize + payload.length)) 0) := by
    rw [List.replicate_append_replicate, List.replicate_append_replicate, ← Nat.add_assoc,
      Nat.add_sub_cancel' h]
  have hl : (List.replicate maxFrame (0 : UInt8)).length = maxFrame := List.length_replicate
  have hroom : (List.replicate txDescriptorSize (0 : UInt8)).length = txDescriptorSize :=
    List.length_replicate
  have hd : (DataFrame.descriptor role payload.length).length = txDescriptorSize := by
    simp [DataFrame.descriptor, txDescriptorSize]
  have hde := descriptor_eq hroom role (n := payload.length) (Nat.lt_of_le_of_lt h (by decide))
  have hrest : txDescriptorSize + (payload.length +
      (List.replicate (maxFrame - (txDescriptorSize + payload.length)) (0 : UInt8)).length) =
        maxFrame := by
    rw [List.length_replicate, ← Nat.add_assoc, Nat.add_sub_cancel' h]
  generalize List.replicate (maxFrame - (txDescriptorSize + payload.length)) (0 : UInt8) = rest
    at hz hrest
  generalize List.replicate txDescriptorSize (0 : UInt8) = room at hz hroom hde
  have h₁ : (Buffer.withHeadroom maxFrame txDescriptorSize).put? payload.length = .ok (some
      (txDescriptorSize, ⟨List.replicate maxFrame 0, txDescriptorSize, payload.length⟩)) :=
    Buffer.put?_withHeadroom h hm
  have h₂ : Buffer.write ⟨List.replicate maxFrame 0, txDescriptorSize, payload.length⟩
      txDescriptorSize payload =
        .ok ⟨room ++ (payload ++ rest), txDescriptorSize, payload.length⟩ :=
    Buffer.write_of_eq hz hroom.symm List.length_replicate (by rwa [hl])
  have h₃ : Buffer.push? ⟨room ++ (payload ++ rest), txDescriptorSize, payload.length⟩
      txDescriptorSize =
        .ok (some (0, ⟨room ++ (payload ++ rest), 0, payload.length + txDescriptorSize⟩)) :=
    Buffer.push?_all (Nat.le_trans h hm)
  have h₄ : addSize 0 txDescriptorSize = .ok (0 + txDescriptorSize) := addSize_of_small (by decide)
  have h₅ : slice (room ++ (payload ++ rest)) 0 txDescriptorSize = .ok room :=
    slice_left hroom.symm
  have h₆ : Buffer.write ⟨room ++ (payload ++ rest), 0, payload.length + txDescriptorSize⟩ 0
      (DataFrame.descriptor role payload.length) =
        .ok ⟨DataFrame.descriptor role payload.length ++ (payload ++ rest), 0,
          payload.length + txDescriptorSize⟩ := by
    refine Buffer.write_start rfl (by rw [hroom, hd]) ?_
    simp only [List.length_append, hroom, hrest]
    exact hm
  have h₇ : Buffer.data ⟨DataFrame.descriptor role payload.length ++ (payload ++ rest), 0,
      payload.length + txDescriptorSize⟩ =
        .ok (DataFrame.descriptor role payload.length ++ payload) := by
    rw [← List.append_assoc]
    refine Buffer.data_of_append rfl rfl ?_ ?_
    · rw [List.length_append, hd, Nat.add_comm]
    · simp only [List.length_append, hd]
      omega
  simp only [assemble, h₁, h₂, h₃, h₄, h₅, h₆, h₇, hde, Nat.zero_add, Built.lift_bind]
  rfl

theorem buildFrame_eq {payload : Bytes} (h : txDescriptorSize + payload.length ≤ maxSlice)
    (role : Role) :
    buildFrame payload role = ExceptT.mk (.ok ((DataFrame.build payload role).map (·.data))) := by
  unfold buildFrame
  by_cases hp : payload = []
  · rw [if_pos hp, DataFrame.build, if_pos hp]
    rfl
  · rw [if_neg hp, addSize_of_le h, Built.lift_bind]
    by_cases hl : maxFrame < txDescriptorSize + payload.length
    · rw [if_pos hl, DataFrame.build, if_neg hp, if_pos hl]
      rfl
    · have hle := Nat.not_lt.mp hl
      obtain ⟨q, hq⟩ := DataFrame.exists_build hp hle role
      rw [if_neg hl, hq, Except.map, DataFrame.build_data hq, assemble_eq hle]

end SdioWlan.Checked
