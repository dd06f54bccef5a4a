import SdioWlan.Proofs.Checked.Frames

namespace SdioWlan

namespace Packet

inductive Fill
  | bytes (b : Bytes)
  | asIs (n : Nat)
  deriving DecidableEq, Repr

namespace Fill

def length : Fill → Nat
  | .bytes b => b.length
  | .asIs n => n

def result : Fill → Bytes → Bytes
  | .bytes b, _ => b
  | .asIs _, room => room

theorem length_result {f : Fill} {room : Bytes} (h : room.length = f.length) :
    (f.result room).length = f.length := by
  cases f with
  | bytes b => rfl
  | asIs n => exact h

end Fill

inductive Edit
  | put (f : Fill)
  | push (f : Fill)
  | pull (n : Nat)
  | trim (n : Nat)
  | overwrite (bytes : Bytes)
  deriving DecidableEq, Repr

def edit? (p : Packet) : Edit → Option Packet
  | .put f => (p.after? f.length).bind fun room ↦ p.put? (f.result room)
  | .push f => (p.before? f.length).bind fun room ↦ p.push? (f.result room)
  | .pull n => p.pull? n
  | .trim n => some (p.trim n)
  | .overwrite bytes => some (p.overwrite bytes)

def edit (p : Packet) (e : Edit) : Packet := (p.edit? e).getD p

def editAll (p : Packet) (edits : List Edit) : Packet := edits.foldl edit p

inductive Origin
  | room (capacity headroom : Nat)
  | frame (bytes : Bytes)
  deriving DecidableEq, Repr

namespace Origin

def capacity : Origin → Nat
  | .room capacity _ => capacity
  | .frame bytes => bytes.length

def packet : Origin → Packet
  | .room capacity headroom => withHeadroom capacity headroom
  | .frame bytes => ofBytes bytes

end Origin

/-- What an edit makes of the data and of the room on either side. A refusal leaves no packet. -/
inductive Outcome (p : Packet) : Edit → Option Packet → Prop
  | put {f : Fill} {q : Packet} (h : f.length ≤ p.tailroom.length)
      (hd : q.data = p.data ++ f.result (p.tailroom.take f.length))
      (hh : q.headroom = p.headroom) (ht : q.tailroom = p.tailroom.drop f.length) :
      Outcome p (.put f) (some q)
  | noTailroom {f : Fill} (h : p.tailroom.length < f.length) : Outcome p (.put f) none
  | push {f : Fill} {q : Packet} {k : Nat} (h : k + f.length = p.headroom.length)
      (hd : q.data = f.result (p.headroom.drop k) ++ p.data)
      (hh : q.headroom = p.headroom.take k) (ht : q.tailroom = p.tailroom) :
      Outcome p (.push f) (some q)
  | noHeadroom {f : Fill} (h : p.headroom.length < f.length) : Outcome p (.push f) none
  | pull {n : Nat} {q : Packet} (h : n ≤ p.data.length) (hd : q.data = p.data.drop n)
      (hh : q.headroom = p.headroom ++ p.data.take n) (ht : q.tailroom = p.tailroom) :
      Outcome p (.pull n) (some q)
  | tooShort {n : Nat} (h : p.data.length < n) : Outcome p (.pull n) none
  | trim {n : Nat} {q : Packet} (hd : q.data = p.data.take (min n p.data.length))
      (hh : q.headroom = p.headroom) (ht : q.tailroom = p.data.drop n ++ p.tailroom) :
      Outcome p (.trim n) (some q)
  | overwrite {bytes : Bytes} {q : Packet} (hl : q.data.length = p.data.length)
      (hn : ∀ i < p.data.length, q.data[i]? = if i < bytes.length then bytes[i]? else p.data[i]?)
      (hh : q.headroom = p.headroom) (ht : q.tailroom = p.tailroom) :
      Outcome p (.overwrite bytes) (some q)

end Packet

namespace Checked.Buffer

open Packet

def ofBytes (frame : Bytes) : Buffer := ⟨frame, 0, frame.length⟩

def trim (p : Buffer) (n : Nat) : Buffer := { p with len := min p.len n }

variable [Machine]

def pull? (p : Buffer) (n : Nat) : Except Fault (Option Buffer) := do
  if p.len < n then return none
  else return some { p with head := ← addSize p.head n, len := ← subSize p.len n }

def fill (p : Buffer) (start : Nat) (f : Fill) : Except Fault Buffer := do
  let room ← slice p.storage start (← addSize start f.length)
  p.write start (f.result room)

def edit? (p : Buffer) : Edit → Except Fault (Option Buffer)
  | .put f => do
    match ← p.put? f.length with
    | none => return none
    | some (start, q) => return some (← q.fill start f)
  | .push f => do
    match ← p.push? f.length with
    | none => return none
    | some (start, q) => return some (← q.fill start f)
  | .pull n => p.pull? n
  | .trim n => return some (p.trim n)
  | .overwrite bytes => do
    let room ← p.data
    return some (← p.write p.head (bytes.take room.length))

def editAll (p : Buffer) : List Edit → Except Fault Buffer
  | [] => return p
  | e :: rest => do ((← p.edit? e).getD p).editAll rest

def ofOrigin (o : Origin) : Except Fault Buffer := do
  reserve o.capacity
  return match o with
    | .room capacity headroom => withHeadroom capacity headroom
    | .frame bytes => ofBytes bytes

end Checked.Buffer

namespace Packet

open Checked

variable {p q : Packet} {n : Nat} {f : Fill}

theorem edit?_put (h : f.length ≤ p.tailroom.length) :
    p.edit? (.put f) = some { p with
      data := p.data ++ f.result (p.tailroom.take f.length)
      tailroom := p.tailroom.drop f.length } := by
  have ha : p.after? f.length = some (p.tailroom.take f.length) := by
    rw [after?, Bytes.slice?, Nat.zero_add, if_pos h, List.drop_zero]
  have hl := Fill.length_result (List.length_take_of_le h)
  simp only [edit?, ha, Option.bind_some, put?, hl, if_pos h]

theorem edit?_put_none (h : p.tailroom.length < f.length) : p.edit? (.put f) = none := by
  have ha : p.after? f.length = none := by
    rw [after?, Bytes.slice?, Nat.zero_add, if_neg (Nat.not_le.mpr h)]
  rw [edit?, ha, Option.bind_none]

theorem edit?_push {k : Nat} (h : k + f.length = p.headroom.length) :
    p.edit? (.push f) = some { p with
      headroom := p.headroom.take k
      data := f.result (p.headroom.drop k) ++ p.data } := by
  have hk : p.headroom.length - f.length = k := by omega
  have hf : f.length ≤ p.headroom.length := by omega
  have hd : (p.headroom.drop k).length = f.length := by rw [List.length_drop]; omega
  have hb : p.before? f.length = some (p.headroom.drop k) := by
    rw [before?, if_pos hf, hk, Bytes.slice?, if_pos (Nat.le_of_eq h),
      List.take_of_length_le (Nat.le_of_eq hd)]
  simp only [edit?, hb, Option.bind_some, push?, Fill.length_result hd, if_pos hf, hk]

theorem edit?_push_none (h : p.headroom.length < f.length) : p.edit? (.push f) = none := by
  rw [edit?, before?, if_neg (Nat.not_le.mpr h), Option.bind_none]

theorem edit?_pull (h : n ≤ p.data.length) :
    p.edit? (.pull n) = some { p with
      headroom := p.headroom ++ p.data.take n
      data := p.data.drop n } := by
  rw [edit?, pull?, if_pos h]

theorem edit?_pull_none (h : p.data.length < n) : p.edit? (.pull n) = none := by
  rw [edit?, pull?, if_neg (Nat.not_le.mpr h)]

theorem overwrite_getElem? (p : Packet) (bytes : Bytes) {i : Nat} (h : i < p.data.length) :
    (p.overwrite bytes).data[i]? = if i < bytes.length then bytes[i]? else p.data[i]? := by
  have hl : (bytes.take p.data.length).length = min p.data.length bytes.length :=
    List.length_take
  simp only [overwrite, List.getElem?_append, hl, List.getElem?_take, List.getElem?_drop]
  split
  · rw [if_pos (by omega : i < bytes.length)]
  · rw [if_neg (by omega : ¬ i < bytes.length)]
    congr 1
    omega

/-- An edit is refused exactly when there is no room for it, and it touches nothing but what it
names. -/
theorem outcome (p : Packet) (e : Edit) : p.Outcome e (p.edit? e) := by
  cases e with
  | put f =>
    by_cases h : f.length ≤ p.tailroom.length
    · rw [edit?_put h]
      exact .put h rfl rfl rfl
    · rw [edit?_put_none (Nat.not_le.mp h)]
      exact .noTailroom (Nat.not_le.mp h)
  | push f =>
    by_cases h : f.length ≤ p.headroom.length
    · rw [edit?_push (Nat.sub_add_cancel h)]
      exact .push (Nat.sub_add_cancel h) rfl rfl rfl
    · rw [edit?_push_none (Nat.not_le.mp h)]
      exact .noHeadroom (Nat.not_le.mp h)
  | pull n =>
    by_cases h : n ≤ p.data.length
    · rw [edit?_pull h]
      exact .pull h rfl rfl rfl
    · rw [edit?_pull_none (Nat.not_le.mp h)]
      exact .tooShort (Nat.not_le.mp h)
  | trim n =>
    have hd : p.data.take n = p.data.take (min n p.data.length) := List.take_eq_take_min
    exact .trim hd rfl rfl
  | overwrite bytes =>
    have hl : (p.overwrite bytes).data.length = p.data.length := by
      simp only [Packet.overwrite, List.length_append, List.length_take, List.length_drop]
      omega
    exact .overwrite hl (fun i hi ↦ p.overwrite_getElem? bytes hi) rfl rfl

theorem Outcome.capacity_eq {e : Edit} (h : p.Outcome e (some q)) : q.capacity = p.capacity := by
  unfold Packet.capacity
  cases h with
  | put h hd hh ht =>
    rw [hd, hh, ht, List.length_append, List.length_drop,
      Fill.length_result (List.length_take_of_le h)]
    omega
  | push h hd hh ht =>
    rw [hd, hh, ht, List.length_append, List.length_take,
      Fill.length_result (by rw [List.length_drop]; omega)]
    omega
  | pull h hd hh ht =>
    rw [hd, hh, ht, List.length_append, List.length_take, List.length_drop]
    omega
  | trim hd hh ht =>
    rw [hd, hh, ht, List.length_append, List.length_take, List.length_drop]
    omega
  | overwrite hl hn hh ht => rw [hl, hh, ht]

theorem capacity_edit (p : Packet) (e : Edit) : (p.edit e).capacity = p.capacity := by
  have ho := p.outcome e
  unfold edit
  cases hq : p.edit? e with
  | none => rfl
  | some q =>
    rw [hq] at ho
    exact ho.capacity_eq

theorem capacity_editAll (p : Packet) (edits : List Edit) :
    (p.editAll edits).capacity = p.capacity := by
  induction edits generalizing p with
  | nil => rfl
  | cons e rest ih => exact (ih (p.edit e)).trans (p.capacity_edit e)

theorem Origin.capacity_packet (o : Origin) : o.packet.capacity = o.capacity := by
  cases o with
  | room capacity headroom =>
    simp only [Origin.packet, withHeadroom, Packet.capacity, List.length_replicate, List.length_nil]
    exact (by omega : min headroom capacity + 0 + (capacity - headroom) = capacity)
  | frame bytes => exact Nat.zero_add _

/-- What was put in front goes away again, whatever it was, and leaves as much room as before. -/
theorem pull_push (h : p.edit? (.push f) = some q) :
    ∃ r, q.edit? (.pull f.length) = some r ∧ r.data = p.data ∧
      r.headroom.length = p.headroom.length ∧ r.tailroom = p.tailroom := by
  have ho := p.outcome (.push f)
  rw [h] at ho
  cases ho with
  | push hk hd hh ht =>
    rename_i k
    have hl : (f.result (p.headroom.drop k)).length = f.length :=
      Fill.length_result (by rw [List.length_drop]; omega)
    have hq : f.length ≤ q.data.length := by rw [hd, List.length_append, hl]; omega
    refine ⟨_, edit?_pull hq, ?_, ?_, ht⟩
    · rw [hd, List.drop_left' hl]
    · rw [hd, hh, List.take_left' hl, List.length_append, List.length_take, hl]
      omega

def buffer (p : Packet) : Buffer :=
  ⟨p.headroom ++ p.data ++ p.tailroom, p.headroom.length, p.data.length⟩

theorem length_storage (p : Packet) : p.buffer.storage.length = p.capacity := by
  simp only [buffer, List.length_append, capacity]

theorem slice_middle {pre room rest : Bytes} {lo hi : Nat} (h : lo = pre.length)
    (h' : hi = lo + room.length) : slice (pre ++ (room ++ rest)) lo hi = .ok room := by
  subst h h'
  rw [slice_of_le (Nat.le_add_right _ _), List.drop_left, Nat.add_sub_cancel_left, List.take_left]
  rw [List.length_append, List.length_append]
  omega

theorem tailroom_buffer (p : Packet) : p.buffer.tailroom = .ok p.tailroom.length := by
  have hl := p.length_storage
  unfold capacity at hl
  have hh : p.buffer.head = p.headroom.length := rfl
  have hn : p.buffer.len = p.data.length := rfl
  have h₁ : subSize p.buffer.storage.length p.headroom.length = .ok _ := subSize_of_le (by omega)
  have h₂ : subSize (p.buffer.storage.length - p.headroom.length) p.data.length = .ok _ :=
    subSize_of_le (by omega)
  have ht : p.buffer.storage.length - p.headroom.length - p.data.length = p.tailroom.length := by
    omega
  rw [Buffer.tailroom, hh, hn, h₁, ok_bind, h₂, ht]

theorem trim_buffer (p : Packet) (n : Nat) : p.buffer.trim n = (p.trim n).buffer := by
  have hl : min p.data.length n = (p.data.take n).length := by
    rw [List.length_take, Nat.min_comm]
  simp only [Buffer.trim, Packet.trim, buffer, hl, List.append_assoc]
  rw [← List.append_assoc (p.data.take n), List.take_append_drop]

variable [Machine]

/-- Nothing but the room itself is touched when it is filled. -/
theorem fill_of_eq {b : Buffer} {pre room rest : Bytes} {start : Nat}
    (hs : b.storage = pre ++ (room ++ rest)) (hp : start = pre.length)
    (hl : room.length = f.length) (hm : b.storage.length ≤ maxSlice) :
    b.fill start f = .ok { b with storage := pre ++ (f.result room ++ rest) } := by
  have hn := hm
  rw [hs, List.length_append, List.length_append] at hn
  have ha : addSize start f.length = .ok _ := addSize_of_le (by omega)
  have hr : slice b.storage start (start + f.length) = .ok room := by
    rw [hs]
    exact slice_middle hp (by rw [hl])
  have hw := Buffer.write_of_eq hs hp (hl.trans (Fill.length_result hl).symm) hm
  rw [Buffer.fill, ha, ok_bind, hr, ok_bind, hw]

/-- The data lies inside of the storage. -/
theorem data_buffer (h : p.capacity ≤ maxSlice) : p.buffer.data = .ok p.data := by
  unfold capacity at h
  have ha : addSize p.headroom.length p.data.length = .ok _ := addSize_of_le (by omega)
  simp only [Buffer.data, buffer, ha, ok_bind, List.append_assoc]
  exact slice_middle rfl rfl

theorem put_buffer (h : p.capacity ≤ maxSlice) (f : Fill) :
    p.buffer.edit? (.put f) = .ok ((p.edit? (.put f)).map buffer) := by
  have hm : p.buffer.storage.length ≤ maxSlice := by rwa [length_storage]
  have hs : p.buffer.storage = (p.headroom ++ p.data) ++
      (p.tailroom.take f.length ++ p.tailroom.drop f.length) := by
    rw [List.take_append_drop]
    rfl
  by_cases hf : f.length ≤ p.tailroom.length
  · have ho : p.buffer.put? f.length = .ok (some (p.headroom.length + p.data.length,
        { p.buffer with len := p.data.length + f.length })) := by
      apply Buffer.put?_of_le _ hm
      rw [length_storage]
      exact Nat.add_le_add_left hf _
    have hw := fill_of_eq (b := { p.buffer with len := p.data.length + f.length }) (f := f)
      hs List.length_append.symm (List.length_take_of_le hf) hm
    simp only [Buffer.edit?, ho, ok_bind, hw, edit?_put hf, Option.map_some, pure_eq_ok]
    simp only [buffer, List.append_assoc, List.length_append,
      Fill.length_result (List.length_take_of_le hf)]
  · have ho : p.buffer.put? f.length = .ok none := by
      rw [Buffer.put?, tailroom_buffer, ok_bind, if_pos (Nat.not_le.mp hf)]
      rfl
    rw [Buffer.edit?, ho, edit?_put_none (Nat.not_le.mp hf)]
    rfl

theorem push_buffer (h : p.capacity ≤ maxSlice) (f : Fill) :
    p.buffer.edit? (.push f) = .ok ((p.edit? (.push f)).map buffer) := by
  have hm : p.buffer.storage.length ≤ maxSlice := by rwa [length_storage]
  by_cases hf : f.length ≤ p.headroom.length
  · obtain ⟨k, hk⟩ := Nat.exists_eq_add_of_le' hf
    have hs : p.buffer.storage = p.headroom.take k ++
        (p.headroom.drop k ++ (p.data ++ p.tailroom)) := by
      rw [← List.append_assoc, List.take_append_drop, ← List.append_assoc]
      rfl
    have hd : (p.headroom.drop k).length = f.length := by rw [List.length_drop]; omega
    have ht : k = (p.headroom.take k).length := by rw [List.length_take]; omega
    have hsub : p.headroom.length - f.length = k := by omega
    have ho : p.buffer.push? f.length =
        .ok (some (k, { p.buffer with head := k, len := p.data.length + f.length })) := by
      rw [← hsub]
      apply Buffer.push?_of_le hf
      unfold capacity at h
      exact (by omega : p.data.length + f.length ≤ maxSlice)
    have hw := fill_of_eq (b := { p.buffer with head := k, len := p.data.length + f.length })
      (f := f) hs ht hd hm
    simp only [Buffer.edit?, ho, ok_bind, hw, edit?_push hk.symm, Option.map_some, pure_eq_ok]
    simp only [buffer, List.append_assoc, List.length_append, Fill.length_result hd, ← ht,
      Nat.add_comm p.data.length]
  · have ho : p.buffer.push? f.length = .ok none := by
      rw [Buffer.push?, if_pos (Nat.not_le.mp hf : p.buffer.head < f.length)]
      rfl
    rw [Buffer.edit?, ho, edit?_push_none (Nat.not_le.mp hf)]
    rfl

theorem pull_buffer (h : p.capacity ≤ maxSlice) (n : Nat) :
    p.buffer.edit? (.pull n) = .ok ((p.edit? (.pull n)).map buffer) := by
  unfold capacity at h
  by_cases hn : n ≤ p.data.length
  · have h₁ : addSize p.headroom.length n = .ok _ := addSize_of_le (by omega)
    have h₂ : subSize p.data.length n = .ok _ := subSize_of_le hn
    have hd : ¬ p.data.length < n := Nat.not_lt.mpr hn
    simp only [Buffer.edit?, Buffer.pull?, edit?_pull hn, Option.map_some, buffer, if_neg hd, h₁,
      h₂, ok_bind, pure_eq_ok, List.length_append, List.length_take_of_le hn, List.length_drop,
      List.append_assoc]
    rw [← List.append_assoc (p.data.take n), List.take_append_drop]
  · have ho : p.buffer.pull? n = .ok none := if_pos (Nat.not_le.mp hn)
    rw [Buffer.edit?, ho, edit?_pull_none (Nat.not_le.mp hn)]
    rfl

theorem overwrite_buffer (h : p.capacity ≤ maxSlice) (bytes : Bytes) :
    p.buffer.edit? (.overwrite bytes) = .ok (some (p.overwrite bytes).buffer) := by
  have hm : p.buffer.storage.length ≤ maxSlice := by rwa [length_storage]
  have hs : p.buffer.storage = p.headroom ++
      (p.data.take bytes.length ++ (p.data.drop bytes.length ++ p.tailroom)) := by
    rw [← List.append_assoc (p.data.take _), List.take_append_drop, ← List.append_assoc]
    rfl
  have hl : (p.data.take bytes.length).length = (bytes.take p.data.length).length := by
    rw [List.length_take, List.length_take, Nat.min_comm]
  have hw : p.buffer.write p.buffer.head (bytes.take p.data.length) = .ok _ :=
    Buffer.write_of_eq hs rfl hl hm
  have hn : p.data.length =
      (bytes.take p.data.length).length + (p.data.drop bytes.length).length := by
    rw [List.length_take, List.length_drop]
    omega
  simp only [Buffer.edit?, data_buffer h, ok_bind, hw, pure_eq_ok]
  simp only [overwrite, buffer, List.length_append, List.append_assoc, ← hn]

/-- An edit in memory is the edit of the packet, refusals included, and does not fail. -/
theorem edit?_buffer (h : p.capacity ≤ maxSlice) (e : Edit) :
    p.buffer.edit? e = .ok ((p.edit? e).map buffer) := by
  cases e with
  | put f => exact put_buffer h f
  | push f => exact push_buffer h f
  | pull n => exact pull_buffer h n
  | trim n => exact congrArg (Except.ok ∘ some) (p.trim_buffer n)
  | overwrite bytes => exact overwrite_buffer h bytes

theorem editAll_buffer (h : p.capacity ≤ maxSlice) (edits : List Edit) :
    p.buffer.editAll edits = .ok (p.editAll edits).buffer := by
  induction edits generalizing p with
  | nil => rfl
  | cons e rest ih =>
    have hg : ((p.edit? e).map buffer).getD p.buffer = (p.edit e).buffer :=
      Option.getD_map buffer p (p.edit? e)
    rw [Buffer.editAll, edit?_buffer h, ok_bind, hg, ih (by rwa [capacity_edit])]
    rfl

theorem ofOrigin_eq (o : Origin) :
    Buffer.ofOrigin o = (reserve o.capacity).map fun _ ↦ o.packet.buffer := by
  cases o with
  | room capacity headroom =>
    have hz : List.replicate capacity (0 : UInt8) =
        List.replicate (min headroom capacity) 0 ++ List.replicate (capacity - headroom) 0 := by
      rw [List.replicate_append_replicate]
      congr 1
      omega
    have hb : Buffer.withHeadroom capacity headroom = (withHeadroom capacity headroom).buffer := by
      simp only [Buffer.withHeadroom, withHeadroom, buffer, hz, List.append_nil,
        List.length_replicate, List.length_nil]
    simp only [Buffer.ofOrigin, hb]
    rfl
  | frame bytes =>
    have hb : Buffer.ofBytes bytes = (ofBytes bytes).buffer := by
      simp only [Buffer.ofBytes, ofBytes, buffer, List.append_nil, List.nil_append, List.length_nil]
    simp only [Buffer.ofOrigin, hb]
    rfl

/-- A packet buffer after any edits, and one more. The room and the data always fill it up. The edit
does to the data what its name says and to the rest nothing, or is refused when there is no room for
it, and a header that was pushed is pulled off again without a trace. In memory, where a buffer is
one storage, the data lies inside of it, and the edits answer the same and leave the same bytes. -/
theorem edits_keep_layout (o : Origin) (edits : List Edit) (e : Edit) (f : Fill) :
    let p := o.packet.editAll edits
    p.headroom.length + p.data.length + p.tailroom.length = o.capacity ∧
      p.Outcome e (p.edit? e) ∧ (p.edit? e = none → p.edit e = p) ∧
      (∀ q, p.edit? (.push f) = some q → ∃ r, q.edit? (.pull f.length) = some r ∧
        r.data = p.data ∧ r.headroom.length = p.headroom.length ∧ r.tailroom = p.tailroom) ∧
      (do
        let b ← (← Buffer.ofOrigin o).editAll edits
        return (b, ← b.data, ← b.edit? e)) =
      (reserve o.capacity).map fun _ ↦ (p.buffer, p.data, (p.edit? e).map buffer) := by
  intro p
  have hc : p.capacity = o.capacity := (o.packet.capacity_editAll edits).trans o.capacity_packet
  refine ⟨hc, p.outcome e, ?_, fun q ↦ pull_push, ?_⟩
  · intro hn
    rw [edit, hn, Option.getD_none]
  · rw [ofOrigin_eq, reserve]
    split
    · rename_i hm
      have hb : o.packet.buffer.editAll edits = .ok p.buffer :=
        editAll_buffer (by rwa [Origin.capacity_packet]) edits
      rw [← hc] at hm
      simp only [Except.map, ok_bind, hb, data_buffer hm, edit?_buffer hm, pure_eq_ok]
    · rfl

example : ((withHeadroom 32 4).editAll [.put (.bytes [7, 8, 9]), .push (.bytes [1, 2, 3, 4]),
    .push (.asIs 1)]).data = [1, 2, 3, 4, 7, 8, 9] := by decide

end Packet

end SdioWlan
