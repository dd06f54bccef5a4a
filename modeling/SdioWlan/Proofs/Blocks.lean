import SdioWlan.Proofs.Elements

namespace SdioWlan

namespace Tlv

variable {buf : Bytes} {t : Tlv} {ts : List Tlv}

theorem fits_iff : t.Fits ↔ t.payload.length ≤ 65535 := by
  unfold Fits
  omega

namespace Block

variable {b c : Block}

theorem push_of_not_fits (h : ¬ t.Fits) (b : Block) : b.push t = .error .tooLarge := if_neg h

theorem foldl_append (parts : List Bytes) (bytes : Bytes) :
    parts.foldl (· ++ ·) bytes = bytes ++ parts.flatten := by
  induction parts generalizing bytes with
  | nil => rw [List.foldl_nil, List.flatten_nil, List.append_nil]
  | cons p ps ih => rw [List.foldl_cons, ih, List.flatten_cons, List.append_assoc]

theorem foldl_length (parts : List Bytes) (n : Nat) :
    parts.foldl (fun n p ↦ n + p.length) n = n + parts.flatten.length := by
  induction parts generalizing n with
  | nil => rw [List.foldl_nil, List.flatten_nil, List.length_nil, Nat.add_zero]
  | cons p ps ih => rw [List.foldl_cons, ih, List.flatten_cons, List.length_append, Nat.add_assoc]

/-- A payload that comes in parts is added as if it came in one piece. -/
theorem pushParts_eq_push (b : Block) (type : UInt16) (parts : List Bytes) :
    b.pushParts type parts = b.push ⟨type, parts.flatten⟩ := by
  simp only [pushParts, push, foldl_append, foldl_length, Nat.zero_add, encode]

theorem ofList_eq_ok_iff : ofList ts = .ok b ↔ (∀ t ∈ ts, t.Fits) ∧ b = ⟨encodeAll ts⟩ := by
  have hgo (a : Block) :
      ts.foldlM push a = .ok b ↔ (∀ t ∈ ts, t.Fits) ∧ b = ⟨a.bytes ++ encodeAll ts⟩ := by
    induction ts generalizing a with
    | nil =>
      simp only [List.foldlM_nil, pure, Except.pure, Except.ok.injEq, List.not_mem_nil,
        false_imp_iff, implies_true, true_and, encodeAll, List.flatMap_nil, List.append_nil]
      exact eq_comm
    | cons t ts ih =>
      by_cases h : t.Fits
      · simp only [List.foldlM_cons, push_of_fits h, bind, Except.bind, ih, List.forall_mem_cons, h,
          true_and, encodeAll, List.flatMap_cons, List.append_assoc]
      · simp only [List.foldlM_cons, push_of_not_fits h, bind, Except.bind, reduceCtorEq,
          List.forall_mem_cons, h, false_and]
  exact hgo {}

end Block

inductive Addition
  | element (t : Tlv)
  | number (type value : UInt16)
  | parts (type : UInt16) (pieces : List Bytes)
  deriving DecidableEq

namespace Addition

def tlv : Addition → Tlv
  | element t => t
  | number type value => ⟨type, le16 value⟩
  | parts type pieces => ⟨type, pieces.flatten⟩

def push (b : Block) : Addition → Except DriverError Block
  | element t => b.push t
  | number type value => b.pushNumber type value
  | parts type pieces => b.pushParts type pieces

/-- The answer to an addition, and the block that its caller has afterwards. -/
def apply (a : Addition) (b : Block) : Except DriverError Unit × Block :=
  match a.push b with
  | .ok c => (.ok (), c)
  | .error e => (.error e, b)

theorem push_eq (a : Addition) (b : Block) : a.push b = b.push a.tlv := by
  cases a with
  | element t | number type value => rfl
  | parts type pieces => exact b.pushParts_eq_push type pieces

theorem apply_of_fits {a : Addition} (h : a.tlv.Fits) (b : Block) :
    a.apply b = (.ok (), ⟨b.bytes ++ a.tlv.encode .chip⟩) := by
  rw [apply, push_eq, Block.push_of_fits h]

theorem apply_of_not_fits {a : Addition} (h : ¬ a.tlv.Fits) (b : Block) :
    a.apply b = (.error .tooLarge, b) := by
  rw [apply, push_eq, Block.push_of_not_fits h]

end Addition

def Block.build : List Addition → Block → List (Except DriverError Unit) × Block
  | [], b => ([], b)
  | a :: rest, b =>
    let r := a.apply b
    let t := build rest r.2
    (r.1 :: t.1, t.2)

def accepted (additions : List Addition) (answers : List (Except DriverError Unit)) : List Tlv :=
  ((additions.zip answers).filter fun a ↦ a.2 = .ok ()).map fun a ↦ a.1.tlv

theorem accepted_cons (a : Addition) (additions : List Addition) (o : Except DriverError Unit)
    (answers : List (Except DriverError Unit)) :
    accepted (a :: additions) (o :: answers) =
      if o = .ok () then a.tlv :: accepted additions answers else accepted additions answers := by
  by_cases h : o = .ok ()
  · simp [accepted, h]
  · simp [accepted, h]

/-- A block is what it was, and after it the elements of the additions that succeeded. -/
theorem Block.bytes_build (additions : List Addition) (b : Block) :
    (∀ t ∈ accepted additions (build additions b).1, t.Fits) ∧
      (build additions b).2.bytes =
        b.bytes ++ encodeAll (accepted additions (build additions b).1) := by
  induction additions generalizing b with
  | nil => exact ⟨fun t ht ↦ (by cases ht), (List.append_nil _).symm⟩
  | cons a rest ih =>
    by_cases h : a.tlv.Fits
    · obtain ⟨hf, hb⟩ := ih ⟨b.bytes ++ a.tlv.encode .chip⟩
      simp only [build, Addition.apply_of_fits h, accepted_cons, if_true, List.forall_mem_cons]
      refine ⟨⟨h, hf⟩, ?_⟩
      rw [hb, encodeAll, encodeAll, List.flatMap_cons, List.append_assoc]
    · simp only [build, Addition.apply_of_not_fits h, accepted_cons, reduceCtorEq, if_false]
      exact ih b

/-- Whatever is added to an empty block, reading it gives the elements of the additions that
succeeded. Those are the ones whose payload is not longer than a length can say, in whichever way
it is handed over; the others are refused and leave the block as it is. And reading a buffer gives
certain elements exactly if adding these to an empty block gives the buffer. -/
theorem additions_read_back (additions : List Addition) (a : Addition) (b : Block) (type : UInt16)
    (parts : List Bytes) (buf : Bytes) (ts : List Tlv) :
    let r := Block.build additions {}
    parse .chip r.2.bytes = .ok (accepted additions r.1) ∧
      (a.apply b = (.error .tooLarge, b) ↔ 65535 < a.tlv.payload.length) ∧
      ((a.apply b).1 = .ok () ↔ a.tlv.payload.length ≤ 65535) ∧
      b.pushParts type parts = b.push ⟨type, parts.flatten⟩ ∧
      (parse .chip buf = .ok ts ↔ Block.ofList ts = .ok ⟨buf⟩) := by
  intro r
  obtain ⟨hf, hb⟩ := Block.bytes_build additions {}
  refine ⟨?_, ?_, ?_, b.pushParts_eq_push type parts, ?_⟩
  · exact parse_eq_ok_iff.mpr ⟨hf, hb⟩
  · by_cases h : a.tlv.Fits
    · have hl := fits_iff.mp h
      simp only [Addition.apply_of_fits h, Prod.mk.injEq, reduceCtorEq, false_and, false_iff]
      omega
    · have hl := mt fits_iff.mpr h
      simp only [Addition.apply_of_not_fits h, true_iff]
      omega
  · by_cases h : a.tlv.Fits
    · simp only [Addition.apply_of_fits h, fits_iff.mp h]
    · simp only [Addition.apply_of_not_fits h, reduceCtorEq, mt fits_iff.mpr h]
  · rw [parse_eq_ok_iff, Block.ofList_eq_ok_iff, Block.mk.injEq]

end Tlv

end SdioWlan
