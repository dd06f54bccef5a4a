import SdioWlan.Command
import SdioWlan.DataFrame
import SdioWlan.Proofs.Checked.Basic
import SdioWlan.Reply

namespace SdioWlan.Checked

theorem range?_eq_slice? (b : Bytes) (off n : Nat) : range? b off (off + n) = b.slice? off n := by
  simp only [range?, Bytes.slice?, Nat.le_add_right, true_and, Nat.add_sub_cancel_left]

theorem length_of_slice? {b w : Bytes} {off n : Nat} (h : b.slice? off n = some w) :
    w.length = n := by
  unfold Bytes.slice? at h
  split at h
  · cases h
    rw [List.length_take, List.length_drop]
    omega
  · cases h

theorem u16?_of_lt {b : Bytes} {i : Nat} (h : i + 1 < b.length) :
    b.u16? i = some (ofLe16 b[i] b[i + 1]) := by
  have hs : b.slice? i 2 = some [b[i], b[i + 1]] := by
    rw [Bytes.slice?, if_pos (Nat.succ_le_of_lt h), List.drop_eq_getElem_cons (Nat.lt_of_succ_lt h),
      List.drop_eq_getElem_cons h]
    rfl
  rw [Bytes.u16?, hs, Option.map_some, ofLe16]

theorem ofBytes?_of_lt {b : Bytes} (h : b.length < 6) : Mac.ofBytes? b = none := by
  unfold Mac.ofBytes?
  split
  · simp only [List.length_cons] at h
    omega
  · rfl

theorem macOf_take {b : Bytes} (h : 6 ≤ b.length) :
    ∃ m, macOf (b.take 6) = .ok m ∧ Mac.ofBytes? b = some m := by
  match b, h with
  | _ :: _ :: _ :: _ :: _ :: _ :: _, _ => exact ⟨_, rfl, rfl⟩

theorem parse?_of_lt {b : Bytes} (h : b.length < CommandHeader.length) :
    CommandHeader.parse? b = none := by
  unfold CommandHeader.parse?
  split
  · simp only [List.length_cons, CommandHeader.length] at h
    omega
  · rfl

variable [Machine]

def word (b : Bytes) (off : Nat) : Except Fault UInt16 := do
  return ofLe16 (← index b off) (← index b (← addSize off 1))

def u16At (b : Bytes) (off : Nat) : Except Fault (Option UInt16) := do
  match range? b off (← addSize off 2) with
  | none => return none
  | some w => return some (← word w 0)

def macAt (b : Bytes) (off : Nat) : Except Fault (Option Mac) := do
  match range? b off (← addSize off Mac.size) with
  | none => return none
  | some w => return some (← macOf w)

def blockAck (body : Bytes) : Except Fault (Option Reply.BlockAckRequest) := do
  if body.length < Reply.BlockAckRequest.size then return none
  else
    let result ← index body 0
    match ← macAt body 1 with
    | none => return none
    | some peer =>
      let token ← index body 7
      match ← u16At body 8, ← u16At body 10, ← u16At body 12 with
      | some params, some timeout, some start =>
        return some { result, peer, token, params, timeout, start }
      | _, _, _ => return none

def header (frame : Bytes) : Except Fault (Option CommandHeader) := do
  if frame.length < CommandHeader.length then return none
  else
    return some {
      frameLength := ← word frame 0
      kind := ← word frame 2
      command := ← word frame 4
      size := ← word frame 6
      sequence := ← word frame 8
      bss := ← index frame 10
      result := ← index frame 11 }

open DataFrame (Received) in
def received (frame : Bytes) : Except Fault (Except DriverError Received) := do
  if frame.length < frameHeaderSize + 6 then return .error .malformedFrame
  else
    match Role.ofCode? (← index frame 4) with
    | none => return .error .malformedFrame
    | some role =>
      let n ← word frame 6
      let off ← addSize frameHeaderSize (← word frame 8).toNat
      match range? frame off (← addSize off n.toNat) with
      | none => return .error .malformedFrame
      | some payload => return .ok { role, payload }

theorem word_of_lt {b : Bytes} {off : Nat} (h : off + 1 < b.length) (hs : off < 0x7FFFFFFF) :
    word b off = .ok (ofLe16 b[off] b[off + 1]) := by
  have ha : addSize off 1 = .ok (off + 1) := addSize_of_small hs
  simp only [word, ha, index_of_lt h, index_of_lt (Nat.lt_of_succ_lt h), ok_bind, pure_eq_ok]

theorem u16At_eq (b : Bytes) {off : Nat} (h : off + 2 ≤ 0x7FFFFFFF) :
    u16At b off = .ok (b.u16? off) := by
  simp only [u16At, addSize_of_small h, ok_bind, range?_eq_slice?, Bytes.u16?]
  cases hs : b.slice? off 2 with
  | none => rfl
  | some w =>
    have hl : w.length = 2 := length_of_slice? hs
    rcases w with _ | ⟨lo, _ | ⟨hi, _ | _⟩⟩
    case cons.cons.nil =>
      have hw : word [lo, hi] 0 = .ok (ofLe16 lo hi) := word_of_lt (Nat.le_refl 2) (by decide)
      simp only [hw, ok_bind, pure_eq_ok, Option.map_some, ofLe16]
    all_goals exact absurd hl (by simp)

theorem macAt_eq (b : Bytes) {off : Nat} (h : off + 6 ≤ 0x7FFFFFFF) :
    macAt b off = .ok (Mac.at? b off) := by
  have ha : addSize off Mac.size = .ok (off + Mac.size) := addSize_of_small h
  simp only [macAt, ha, ok_bind, range?_eq_slice?, Mac.at?]
  by_cases hl : off + Mac.size ≤ b.length
  · have hd : 6 ≤ (b.drop off).length := by
      rw [List.length_drop]
      exact Nat.le_sub_of_add_le (by rwa [Nat.add_comm])
    obtain ⟨m, hm, ho⟩ := macOf_take hd
    have hm : macOf ((b.drop off).take Mac.size) = .ok m := hm
    simp only [Bytes.slice?, if_pos hl, hm, ho, ok_bind, pure_eq_ok]
  · have hd : (b.drop off).length < 6 := by
      rw [List.length_drop]
      simp only [Mac.size] at hl
      omega
    simp only [Bytes.slice?, if_neg hl, ofBytes?_of_lt hd, pure_eq_ok]

theorem blockAck_eq (body : Bytes) : blockAck body = .ok (Reply.blockAck? body) := by
  unfold blockAck
  by_cases h : body.length < Reply.BlockAckRequest.size
  · have hg : (guard (Reply.BlockAckRequest.size ≤ body.length) : Option Unit) = none :=
      if_neg (Nat.not_le.mpr h)
    rw [Reply.blockAck?, hg, if_pos h]
    rfl
  · have hle : Reply.BlockAckRequest.size ≤ body.length := Nat.not_lt.mp h
    have hg : (guard (Reply.BlockAckRequest.size ≤ body.length) : Option Unit) = some () :=
      if_pos hle
    have h₀ : 0 < body.length := Nat.lt_of_lt_of_le (by decide) hle
    have h₇ : 7 < body.length := Nat.lt_of_lt_of_le (by decide) hle
    have hm : macAt body 1 = .ok (Mac.at? body 1) := macAt_eq body (by decide)
    have hp : u16At body 8 = .ok (body.u16? 8) := u16At_eq body (by decide)
    have ht : u16At body 10 = .ok (body.u16? 10) := u16At_eq body (by decide)
    have hs : u16At body 12 = .ok (body.u16? 12) := u16At_eq body (by decide)
    rw [Reply.blockAck?, hg, if_neg h]
    simp only [index_of_lt h₀, index_of_lt h₇, hm, hp, ht, hs, ok_bind,
      List.getElem?_eq_getElem h₀, List.getElem?_eq_getElem h₇]
    cases Mac.at? body 1 with
    | none => rfl
    | some peer =>
      cases body.u16? 8 <;> cases body.u16? 10 <;> cases body.u16? 12 <;> rfl

theorem header_eq (frame : Bytes) : header frame = .ok (CommandHeader.parse? frame) := by
  unfold header
  by_cases h : frame.length < CommandHeader.length
  · rw [if_pos h, parse?_of_lt h]
    rfl
  · rw [if_neg h]
    match frame, Nat.not_lt.mp h with
    | l₀ :: l₁ :: k₀ :: k₁ :: c₀ :: c₁ :: s₀ :: s₁ :: q₀ :: q₁ :: bss :: result :: rest, _ =>
      simp (disch := decide) only [word, addSize_of_small, ok_bind, index_zero, index_succ,
        pure_eq_ok, CommandHeader.parse?]

theorem received_eq (frame : Bytes) : received frame = .ok (DataFrame.parse frame) := by
  unfold received DataFrame.parse DataFrame.parse.fields?
  by_cases h : frame.length < frameHeaderSize + 6
  · have hu : frame.u16? 8 = none := by
      have hl : ¬ 8 + 2 ≤ frame.length := Nat.not_le.mpr h
      simp only [Bytes.u16?, Bytes.slice?, if_neg hl, Option.map_none]
    simp only [if_pos h, hu, Option.bind_eq_bind, Option.bind_none, Option.bind_fun_none,
      pure_eq_ok]
  · have hl : 10 ≤ frame.length := Nat.not_lt.mp h
    have h₄ : 4 < frame.length := Nat.lt_of_lt_of_le (by decide) hl
    have h₆ : word frame 6 = .ok (ofLe16 frame[6] frame[7]) := word_of_lt (by omega) (by decide)
    have h₈ : word frame 8 = .ok (ofLe16 frame[8] frame[9]) := word_of_lt (by omega) (by decide)
    simp only [if_neg h, index_of_lt h₄, List.getElem?_eq_getElem h₄, ok_bind, h₆, h₈,
      Option.bind_eq_bind, Option.bind_some]
    cases Role.ofCode? frame[4] with
    | none => rfl
    | some role =>
      have hn := (ofLe16 frame[6] frame[7]).toNat_lt
      have ho := (ofLe16 frame[8] frame[9]).toNat_lt
      have ha : addSize frameHeaderSize (ofLe16 frame[8] frame[9]).toNat = .ok _ :=
        addSize_of_small (by rw [frameHeaderSize]; omega)
      have hb : addSize (frameHeaderSize + (ofLe16 frame[8] frame[9]).toNat)
          (ofLe16 frame[6] frame[7]).toNat = .ok _ :=
        addSize_of_small (by rw [frameHeaderSize]; omega)
      have hu : frame.u16? 6 = some (ofLe16 frame[6] frame[7]) := u16?_of_lt (by omega)
      have hv : frame.u16? 8 = some (ofLe16 frame[8] frame[9]) := u16?_of_lt (by omega)
      simp only [ha, hb, hu, hv, ok_bind, range?_eq_slice?, Option.bind_some]
      cases frame.slice? _ _ <;> rfl

end SdioWlan.Checked
