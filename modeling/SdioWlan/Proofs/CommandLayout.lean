import Mathlib.Logic.Basic
import SdioWlan.Proofs.Checked.Frames

namespace SdioWlan

theorem Mac.exists_at? {b : Bytes} {off : Nat} (h : off + size ≤ b.length) :
    ∃ m, at? b off = some m ∧ m.toBytes = (b.drop off).take size := by
  have hm : (at? b off).map toBytes = some ((b.drop off).take size) := by
    rw [map_toBytes_at?, Bytes.slice?, if_pos h]
  exact Option.map_eq_some_iff.mp hm

/-- A request for block acknowledgement holds its fields one behind the other. -/
theorem Reply.exists_blockAck? {body : Bytes} (h : 14 ≤ body.length) :
    ∃ r, blockAck? body = some r ∧ r.peer.toBytes = (body.drop 1).take 6 ∧
      [r.token] = (body.drop 7).take 1 ∧ le16 r.params = (body.drop 8).take 2 ∧
      le16 r.timeout = (body.drop 10).take 2 ∧ le16 r.start = (body.drop 12).take 2 := by
  have hg : (guard (BlockAckRequest.size ≤ body.length) : Option Unit) = some () := if_pos h
  have h₈ : 8 + 2 ≤ body.length := by omega
  have h₁₀ : 10 + 2 ≤ body.length := by omega
  obtain ⟨peer, hp, hpeer⟩ := Mac.exists_at? (show 1 + Mac.size ≤ body.length by
    simp only [Mac.size]; omega)
  obtain ⟨params, ha, hparams⟩ := Bytes.exists_u16? h₈
  obtain ⟨timeout, ht, htimeout⟩ := Bytes.exists_u16? h₁₀
  obtain ⟨start, hs, hstart⟩ := Bytes.exists_u16? h
  have h₀ : 0 < body.length := Nat.lt_of_lt_of_le (by decide) h
  have h₇ : 7 < body.length := Nat.lt_of_lt_of_le (by decide) h
  refine ⟨⟨body[0], peer, body[7], params, timeout, start⟩, ?_, hpeer, ?_, hparams, htimeout,
    hstart⟩
  · rw [blockAck?, hg]
    simp only [List.getElem?_eq_getElem h₀, List.getElem?_eq_getElem h₇, hp, ha, ht, hs, bind,
      Option.bind, pure]
  · rw [List.drop_eq_getElem_cons h₇]
    rfl

namespace Command

/-- What a command asks of its payload. Behind the fixed fields a payload has to fit into a body. -/
def Accepts (id : CommandId) (action : CommandAction) (payload : Bytes) : Prop :=
  match id with
  | .scan => 7 + payload.length ≤ 2036
  | .associate => 13 + payload.length ≤ 2036
  | .sysConfigure => 2 + payload.length ≤ 2036
  | .supplicantPmk => 4 + payload.length ≤ 2036
  | .macControl => payload.length ≠ 1
  | .macAddr => action = .set → 6 ≤ payload.length
  | .staDeauth => 6 ≤ payload.length
  | .addbaRsp => 14 ≤ payload.length
  | .unknown _ => False
  | .getHwSpec | .deauthenticate | .funcInit | .funcShutdown | .bssStart | .bssStop => True

def refusal : CommandId → DriverError
  | .scan | .associate | .sysConfigure | .supplicantPmk => .tooLarge
  | .addbaRsp => .malformedFrame
  | _ => .invalidParam

/-- The fields of a body, one behind the other. The four commands that carry parameters end with
their payload as it is. The answer to a block acknowledgement request has a zero result, the address
and the token that were sent, a zero status, and the parameter set, timeout and starting sequence
that were sent. -/
def fields (id : CommandId) (action : CommandAction) (payload : Bytes) (peer : Peer) : List Bytes :=
  match id with
  | .getHwSpec => [List.replicate 47 0]
  | .scan => [[3], [0, 0, 0, 0, 0, 0], payload]
  | .associate => [peer.bssid.toBytes, le16 peer.capability, [10, 0], [0x40, 0], [0], payload]
  | .deauthenticate => [peer.bssid.toBytes, [36, 0]]
  | .macControl => [if payload = [] then [0x13, 0] else payload.take 2, [0, 0]]
  | .macAddr =>
    [le16 action.code, if action = .get then [0, 0, 0, 0, 0, 0] else payload.take 6]
  | .sysConfigure => [le16 action.code, payload]
  | .staDeauth => [payload.take 6, [3, 0]]
  | .supplicantPmk => [le16 action.code, [0, 0], payload]
  | .addbaRsp =>
    [[0], (payload.drop 1).take 6, (payload.drop 7).take 1, [0, 0], (payload.drop 8).take 2,
      (payload.drop 10).take 2, (payload.drop 12).take 2]
  | .funcInit | .funcShutdown | .bssStart | .bssStop | .unknown _ => []

def reserved (id : CommandId) (payload : Bytes) : Nat :=
  match id with
  | .getHwSpec => 47
  | .scan => 1 + 6 + payload.length
  | .associate => 6 + 7 + payload.length
  | .deauthenticate | .staDeauth => 6 + 2
  | .macControl => 4
  | .macAddr => 2 + 6
  | .sysConfigure => 2 + payload.length
  | .supplicantPmk => 4 + payload.length
  | .addbaRsp => 16
  | .funcInit | .funcShutdown | .bssStart | .bssStop | .unknown _ => 0

variable {id : CommandId} {action : CommandAction} {payload : Bytes}

instance : Decidable (Accepts id action payload) :=
  match id with
  | .scan | .associate | .sysConfigure | .supplicantPmk | .staDeauth | .addbaRsp =>
    inferInstanceAs (Decidable ((_ : Nat) ≤ _))
  | .macControl => inferInstanceAs (Decidable (payload.length ≠ 1))
  | .macAddr => inferInstanceAs (Decidable (action = .set → 6 ≤ payload.length))
  | .unknown _ => inferInstanceAs (Decidable False)
  | .getHwSpec | .deauthenticate | .funcInit | .funcShutdown | .bssStart | .bssStop =>
    inferInstanceAs (Decidable True)

/-- The fields take as much room as is set aside. -/
theorem length_fields (h : Accepts id action payload) (peer : Peer) :
    (fields id action payload peer).flatten.length = reserved id payload := by
  cases id with
  | unknown code => exact h.elim
  | getHwSpec | deauthenticate | funcInit | funcShutdown | bssStart | bssStop => rfl
  | scan | associate | supplicantPmk => simp [fields, reserved]; omega
  | sysConfigure => simp [fields, reserved]
  | macControl =>
    rcases payload with _ | ⟨lo, _ | ⟨hi, rest⟩⟩
    · rfl
    · exact absurd rfl h
    · rfl
  | macAddr =>
    cases action with
    | get => rfl
    | set =>
      have hl : 6 ≤ payload.length := h rfl
      simp [fields, reserved, hl]
  | staDeauth =>
    have hl : 6 ≤ payload.length := h
    simp [fields, reserved, hl]
  | addbaRsp =>
    have hl : 14 ≤ payload.length := h
    simp [fields, reserved]
    omega

theorem reserved_le (h : Accepts id action payload) : reserved id payload ≤ maxBody := by
  cases id with
  | scan | associate | sysConfigure | supplicantPmk => exact h
  | _ => exact Nat.le_of_ble_eq_true rfl

theorem client_of_le (h : 6 ≤ payload.length) :
    ∃ m, client payload = .ok m ∧ m.toBytes = payload.take 6 := by
  have h₀ : 0 + Mac.size ≤ payload.length := by rwa [Nat.zero_add]
  obtain ⟨m, hm, hb⟩ := Mac.exists_at? h₀
  have ho : Mac.ofBytes? payload = some m := hm
  exact ⟨m, by rw [client, ho], hb⟩

theorem client_of_lt (h : payload.length < 6) : client payload = .error .invalidParam := by
  rw [client, Checked.ofBytes?_of_lt h]

theorem bodyOf_of_accepts (h : Accepts id action payload) (peer : Peer) :
    bodyOf id action payload peer = .ok (fields id action payload peer).flatten := by
  cases id with
  | unknown code => exact h.elim
  | getHwSpec | deauthenticate | funcInit | funcShutdown | bssStart | bssStop => rfl
  | scan | associate | supplicantPmk =>
    simp only [bodyOf, fields, List.flatten_cons, List.flatten_nil, List.append_nil,
      List.append_assoc]
    rfl
  | sysConfigure =>
    simp only [bodyOf, fields, List.flatten_cons, List.flatten_nil, List.append_nil]
  | macControl =>
    rcases payload with _ | ⟨lo, _ | ⟨hi, rest⟩⟩
    · rfl
    · exact absurd rfl h
    · simp only [bodyOf, macControlBits, bind, Except.bind, pure, Except.pure, le16_ofLe16]
      rfl
  | macAddr =>
    cases action with
    | get => rfl
    | set =>
      obtain ⟨m, hm, hb⟩ := client_of_le (h rfl)
      simp only [bodyOf, hm, hb, bind, Except.bind, pure, Except.pure, fields, List.flatten_cons,
        List.flatten_nil, List.append_nil, reduceCtorEq, if_false]
  | staDeauth =>
    obtain ⟨m, hm, hb⟩ := client_of_le h
    simp only [bodyOf, hm, hb, bind, Except.bind, pure, Except.pure, fields, List.flatten_cons,
      List.flatten_nil, List.append_nil]
    rfl
  | addbaRsp =>
    obtain ⟨r, hr, hpeer, htoken, hparams, htimeout, hstart⟩ := Reply.exists_blockAck? h
    simp only [bodyOf, hr, blockAckBody, hpeer, htoken, hparams, htimeout, hstart, fields,
      List.flatten_cons, List.flatten_nil, List.append_nil, List.append_assoc]
    rfl

theorem encode_of_accepts (h : Accepts id action payload) (peer : Peer) :
    ∃ c, encode id action payload peer = .ok c ∧ c.id = id ∧ c.role = id.role ∧
      c.body = (fields id action payload peer).flatten := by
  have hl : (fields id action payload peer).flatten.length ≤ maxBody := by
    rw [length_fields h]
    exact reserved_le h
  refine ⟨⟨id, id.role, _, hl⟩, ?_, rfl, rfl, rfl⟩
  rw [encode, bodyOf_of_accepts h]
  exact ofBody_of_le hl

theorem encode_of_not_accepts (h : ¬ Accepts id action payload) (peer : Peer) :
    encode id action payload peer = .error (refusal id) := by
  cases id with
  | unknown code => rfl
  | getHwSpec | deauthenticate | funcInit | funcShutdown | bssStart | bssStop =>
    exact absurd trivial h
  | scan | associate | supplicantPmk | sysConfigure =>
    refine dif_neg fun hl ↦ h ?_
    simp only [List.length_append, List.length_cons, List.length_nil, length_le16,
      Mac.length_toBytes, maxBody, maxFrame, CommandHeader.length] at hl
    simp only [Accepts]
    omega
  | macControl =>
    rcases payload with _ | ⟨lo, _ | ⟨hi, rest⟩⟩
    · exact absurd (by simp [Accepts]) h
    · rfl
    · exact absurd (by simp [Accepts]) h
  | macAddr =>
    obtain ⟨rfl, hl⟩ := Classical.not_imp.mp h
    rw [encode, bodyOf, client_of_lt (Nat.not_le.mp hl)]
    rfl
  | staDeauth =>
    rw [encode, bodyOf, client_of_lt (Nat.not_le.mp h)]
    rfl
  | addbaRsp =>
    have hg : (guard (Reply.BlockAckRequest.size ≤ payload.length) : Option Unit) = none :=
      if_neg h
    rw [encode, bodyOf, Reply.blockAck?, hg]
    rfl

end Command

namespace Checked

variable [Machine] {id : CommandId} {action : CommandAction} {payload : Bytes}

/-- A writer that writes these parts into room for `n` bytes ends where the room ends. -/
def Fills (n : Nat) (parts : List Bytes) (body : Bytes) : Prop :=
  parts.foldlM Writer.bytes ⟨List.replicate n 0, 0⟩ = .ok ⟨body, n⟩

theorem fills_of_length {n : Nat} {parts : List Bytes} (hn : n ≤ maxSlice)
    (h : parts.flatten.length = n) : Fills n parts parts.flatten := by
  have hf : parts.foldlM Writer.bytes ⟨[] ++ List.replicate n 0, ([] : Bytes).length⟩ = .ok _ :=
    foldlM_bytes (by rwa [List.length_nil, List.length_replicate, Nat.zero_add])
      (Nat.le_of_eq (by rw [List.length_replicate, h]))
  rwa [List.nil_append, List.nil_append, List.length_nil, Nat.zero_add, List.drop_replicate, h,
    Nat.sub_self, List.replicate_zero, List.append_nil] at hf

open Command (Accepts fields reserved) in
/-- The room that is set aside and the parts that are written there. A specification is asked for
with a body that nothing is written to. -/
theorem encode_of_accepts (h : Accepts id action payload) (hi : id ≠ .getHwSpec) (peer : Peer) :
    encode id action payload peer =
      withBody id (reserved id payload) (fields id action payload peer) := by
  have ha {k : Nat} (hk : k + payload.length ≤ 2036) :
      addSize k payload.length = .ok (k + payload.length) :=
    addSize_of_small (Nat.le_trans hk (by decide))
  cases id with
  | unknown code => exact h.elim
  | getHwSpec => exact absurd rfl hi
  | deauthenticate | funcInit | funcShutdown | bssStart | bssStop => rfl
  | scan =>
    have hs : addSize (1 + Mac.size) payload.length = .ok (1 + Mac.size + payload.length) := ha h
    simp only [encode, hs, Built.lift_bind]
    exact congrArg₂ (withBody _) rfl rfl
  | associate =>
    have hs : addSize (Mac.size + 7) payload.length = .ok (Mac.size + 7 + payload.length) := ha h
    simp only [encode, hs, Built.lift_bind]
    exact congrArg₂ (withBody _) rfl rfl
  | sysConfigure | supplicantPmk =>
    simp only [encode, ha h, Built.lift_bind]
    exact congrArg₂ (withBody _) rfl rfl
  | macControl =>
    rcases payload with _ | ⟨lo, _ | ⟨hi, rest⟩⟩
    · simp only [encode, pure_bind]
      exact congrArg₂ (withBody _) rfl rfl
    · exact absurd rfl h
    · simp only [encode, pure_bind, le16_ofLe16]
      exact congrArg₂ (withBody _) rfl rfl
  | macAddr =>
    cases action with
    | get =>
      simp only [encode, pure_bind]
      exact congrArg₂ (withBody _) rfl rfl
    | set =>
      obtain ⟨m, hm, hb⟩ := Command.client_of_le (h rfl)
      simp only [encode, client_eq, Built.ok_bind, hm, hb]
      exact congrArg₂ (withBody _) rfl rfl
  | staDeauth =>
    obtain ⟨m, hm, hb⟩ := Command.client_of_le h
    simp only [encode, client_eq, Built.ok_bind, hm, hb]
    exact congrArg₂ (withBody _) rfl rfl
  | addbaRsp =>
    obtain ⟨r, hr, hpeer, htoken, hparams, htimeout, hstart⟩ := Reply.exists_blockAck? h
    simp only [encode, blockAck_eq, hr, Built.lift_bind, hpeer, htoken, hparams, htimeout, hstart]
    exact congrArg₂ (withBody _) rfl rfl

end Checked

/-- A role in the high half of a byte can be read there, and leaves the low half free. -/
theorem Role.ofCode?_shift (r : Role) : ofCode? (r.code <<< 4 >>> 4) = some r := by
  cases r <;> rfl

theorem Role.shift_and (r : Role) : r.code <<< 4 &&& 0x0F = 0 := by
  cases r <;> rfl

structure CommandHeader.Announces (h : CommandHeader) (id : CommandId) (total : Nat) : Prop where
  command : h.command = id.code
  frameLength : h.frameLength.toNat = total
  size : h.size.toNat = total - 4
  kind : h.kind = 1
  sequence : h.sequence = 0
  result : h.result = 0
  role : Role.ofCode? (h.bss >>> 4) = some id.role
  number : h.bss &&& 0x0F = 0

structure Command.Serialized (id : CommandId) (body before after : Bytes) : Prop where
  length_eq : after.length = before.length
  rest_eq : after.drop (12 + body.length) = before.drop (12 + body.length)
  body_eq : (after.drop 12).take body.length = body
  header : ∃ h, CommandHeader.parse? after = some h ∧ h.Announces id (12 + body.length)

namespace Command

theorem announces {c : Command} (hr : c.role = c.id.role) :
    c.header.Announces c.id c.frameLength := by
  have hl := c.frameLength_le
  simp only [maxFrame] at hl
  refine ⟨rfl, ?_, ?_, rfl, rfl, rfl, ?_, ?_⟩
  · exact UInt16.toNat_ofNat_of_lt' (by simp only [UInt16.size]; omega)
  · exact UInt16.toNat_ofNat_of_lt' (by simp only [UInt16.size]; omega)
  · rw [← hr]
    exact c.role.ofCode?_shift
  · exact c.role.shift_and

theorem writeTo_serialized {c : Command} (hr : c.role = c.id.role) {buf : Bytes}
    (h : c.frameLength ≤ buf.length) :
    ∃ after, c.writeTo buf = .ok (c.frameLength, after) ∧
      Serialized c.id c.body buf after := by
  refine ⟨_, if_pos h, ?_, ?_, ?_, c.header, ?_, announces hr⟩
  · rw [List.length_append, c.length_frame, List.length_drop]
    exact Nat.add_sub_of_le h
  · exact List.drop_left' c.length_frame
  · have hd : (c.header.toBytes ++ (c.body ++ buf.drop c.frameLength)).drop 12 =
        c.body ++ buf.drop c.frameLength := List.drop_left' c.header.length_toBytes
    rw [frame, List.append_assoc, hd, List.take_left]
  · rw [frame, List.append_assoc]
    exact CommandHeader.parse?_toBytes_append _ _

/-- A command can be made of exactly the payloads that it accepts. Its body is its fields, one
behind the other, and where they are written into room that was set aside, they fill it. What is
written to a buffer with enough room has the header of this command, and the rest of the buffer
stays as it was. -/
theorem encode_lays_out [Checked.Machine] (id : CommandId) (action : CommandAction)
    (payload : Bytes) (peer : Peer) :
    ((∃ c, encode id action payload peer = .ok c) ↔ Accepts id action payload) ∧
    (¬ Accepts id action payload → encode id action payload peer = .error (refusal id)) ∧
    ∀ c, encode id action payload peer = .ok c →
      c.body = (fields id action payload peer).flatten ∧
      (id ≠ .getHwSpec →
        Checked.encode id action payload peer =
          Checked.withBody id (reserved id payload) (fields id action payload peer) ∧
        Checked.Fills (reserved id payload) (fields id action payload peer) c.body) ∧
      ∀ buf : Bytes, 12 + c.body.length ≤ buf.length → ∃ after,
        c.writeTo buf = .ok (12 + c.body.length, after) ∧
        Serialized id c.body buf after := by
  have hn (h : ¬ Accepts id action payload) := encode_of_not_accepts h peer
  have hiff : (∃ c, encode id action payload peer = .ok c) ↔ Accepts id action payload := by
    constructor
    · rintro ⟨c, hc⟩
      refine Decidable.by_contra fun h ↦ ?_
      rw [hn h] at hc
      cases hc
    · intro h
      obtain ⟨c, hc, -⟩ := encode_of_accepts h peer
      exact ⟨c, hc⟩
  refine ⟨hiff, hn, fun c hc ↦ ?_⟩
  have h := hiff.mp ⟨c, hc⟩
  obtain ⟨c', hc', rfl, hr, hb⟩ := encode_of_accepts h peer
  cases hc.symm.trans hc'
  refine ⟨hb, fun hi ↦ ⟨Checked.encode_of_accepts h hi peer, ?_⟩, fun buf ↦ writeTo_serialized hr⟩
  have hm : reserved c.id payload ≤ Checked.maxSlice :=
    Nat.le_trans (reserved_le h) (Nat.le_trans (by decide) Checked.le_maxSlice)
  rw [hb]
  exact Checked.fills_of_length hm (length_fields h peer)

end Command

end SdioWlan
