import SdioWlan.Firmware

namespace SdioWlan

namespace Access

def isWrite : Access → Bool
  | writeBlock _ _ _ _ => true
  | _ => false

def block? : Access → Option Bytes
  | writeBlock _ .fifo block (.ok ()) => some block
  | _ => none

def failed : Access → Bool
  | readByte _ (.error _) | writeByte _ _ (.error _) | readBlock _ _ _ (.error _)
  | writeBlock _ _ _ (.error _) | reset (.error _) => true
  | _ => false

def reads (addr : UInt32) : Access → Bool
  | readByte a _ => a == addr
  | _ => false

end Access

namespace Firmware

def written : List Access → Bytes
  | [] => []
  | x :: h => written h ++ x.block?.getD []

/-- The chip has just said that it asks for `n` bytes. -/
def Asks (n : UInt16) (h : List Access) : Prop :=
  ∃ lo hi k, n = ofLe16 lo hi ∧
    h = .readByte Register.chunkLengthHigh (.ok hi) ::
      .readByte Register.chunkLengthLow (.ok lo) :: k

def Invites (h : List Access) : Prop :=
  ∃ card k, card &&& cardReady ≠ 0 ∧ card &&& chunkReady ≠ 0 ∧
    h = .readByte Register.cardEvent (.ok card) :: k

/-- Nothing more is done: an access has failed, or the chip asks for an odd number of bytes. -/
def Settled (h : List Access) : Prop :=
  (∃ x k, h = x :: k ∧ x.failed) ∨ ∃ n, Asks n h ∧ n &&& 1 ≠ 0

def probes (addr : UInt32) (h : List Access) : Nat :=
  (h.takeWhile fun x ↦ !x.isWrite).countP (Access.reads addr)

/-- What may be done next while an image is loaded to the ports at `base`, after all that is listed
in `h`. -/
inductive MayFollow (base : UInt32) (image : Bytes) (b : FirmwareBudgets) (h : List Access) :
    Access → Prop
  | status {o : Except Errno UInt8} (hw : h.any Access.isWrite = true)
      (hn : probes Register.cardEvent h < b.chunkReady.maxTries.toNat) :
      MayFollow base image b h (.readByte Register.cardEvent o)
  | firstLength {o : Except Errno UInt8} (hw : h.any Access.isWrite = false)
      (hn : probes Register.chunkLengthLow h < b.chunkReady.maxTries.toNat) :
      MayFollow base image b h (.readByte Register.chunkLengthLow o)
  | length {o : Except Errno UInt8} (hi : Invites h) :
      MayFollow base image b h (.readByte Register.chunkLengthLow o)
  | lengthHigh {o : Except Errno UInt8}
      (hl : ∃ lo k, h = .readByte Register.chunkLengthLow (.ok lo) :: k) :
      MayFollow base image b h (.readByte Register.chunkLengthHigh o)
  | block {n : UInt16} {rest : Bytes} {o : Except Errno Unit} (ha : Asks n h) (hn : 0 < n.toNat)
      (hr : written h ++ rest = image) (hne : rest ≠ []) :
      MayFollow base image b h (.writeBlock base .fifo (rest.take n.toNat) o)
  | mark {o : Except Errno UInt8} (hw : written h = image)
      (hn : probes Register.firmwareLow h < b.firmwareReady.maxTries.toNat) :
      MayFollow base image b h (.readByte Register.firmwareLow o)
  | markHigh {o : Except Errno UInt8}
      (hl : ∃ lo k, h = .readByte Register.firmwareLow (.ok lo) :: k) :
      MayFollow base image b h (.readByte Register.firmwareHigh o)

/-- All that was done was allowed when it was done. -/
inductive Orderly (base : UInt32) (image : Bytes) (b : FirmwareBudgets) : List Access → Prop
  | start : Orderly base image b []
  | next {h : List Access} {x : Access} (hh : Orderly base image b h) (hs : ¬ Settled h)
      (hx : MayFollow base image b h x) : Orderly base image b (x :: h)

variable {base : UInt32} {image : Bytes} {b : FirmwareBudgets} {h : List Access} {n : UInt16}

theorem Asks.unique {m : UInt16} (h₁ : Asks n h) (h₂ : Asks m h) : n = m := by
  obtain ⟨lo, hi, k, rfl, rfl⟩ := h₁
  obtain ⟨lo', hi', k', rfl, he⟩ := h₂
  cases he
  rfl

theorem Asks.not_failed {x : Access} (ha : Asks n (x :: h)) : ¬ x.failed := by
  obtain ⟨lo, hi, k, -, he⟩ := ha
  cases he
  simp [Access.failed]

/-- Only after the high byte of a length has been read the chip has said how much it asks for. -/
theorem not_asks {addr : UInt32} (hn : addr ≠ Register.chunkLengthHigh) (o : Except Errno UInt8) :
    ¬ Asks n (.readByte addr o :: h) := by
  rintro ⟨lo, hi, k, -, he⟩
  simp only [List.cons.injEq, Access.readByte.injEq] at he
  exact hn he.1.1

theorem not_asks_write {addr : UInt32} {mode : Addressing} {block : Bytes}
    {o : Except Errno Unit} : ¬ Asks n (.writeBlock addr mode block o :: h) := by
  rintro ⟨lo, hi, k, -, he⟩
  cases he

theorem not_settled_of_not_asks {x : Access} (hx : x.failed = false)
    (ha : ∀ n, Asks n (x :: h) → n &&& 1 = 0) : ¬ Settled (x :: h) := by
  rintro (⟨y, k, he, hy⟩ | ⟨n, hn, ho⟩)
  · cases he
    rw [hx] at hy
    cases hy
  · exact ho (ha n hn)

/-- After any other register was read there is more to do. -/
theorem not_settled_readByte {addr : UInt32} (hn : addr ≠ Register.chunkLengthHigh) (v : UInt8) :
    ¬ Settled (.readByte addr (.ok v) :: h) :=
  not_settled_of_not_asks rfl fun _ ha ↦ absurd ha (not_asks hn _)

@[simp] theorem written_readByte (addr : UInt32) (o : Except Errno UInt8) :
    written (.readByte addr o :: h) = written h := by
  simp [written, Access.block?]

@[simp] theorem probes_readByte (a addr : UInt32) (o : Except Errno UInt8) :
    probes a (.readByte addr o :: h) = probes a h + if addr = a then 1 else 0 := by
  simp only [probes, List.takeWhile_cons, Access.isWrite, Bool.not_false, if_true,
    List.countP_cons, Access.reads, beq_iff_eq]

@[simp] theorem probes_writeBlock (a addr : UInt32) (mode : Addressing) (block : Bytes)
    (o : Except Errno Unit) : probes a (.writeBlock addr mode block o :: h) = 0 := by
  simp only [probes, List.takeWhile_cons, Access.isWrite, Bool.not_true, Bool.false_eq_true,
    if_false, List.countP_nil]

variable {k : List Access}

theorem Orderly.suffix (hh : Orderly base image b h) (hk : k <:+ h) : Orderly base image b k := by
  induction hh with
  | start =>
    rw [List.suffix_nil.mp hk]
    exact .start
  | next hh hs hx ih =>
    rcases List.suffix_cons_iff.mp hk with rfl | hk
    · exact .next hh hs hx
    · exact ih hk

theorem Orderly.not_settled (hh : Orderly base image b h) (hk : k <:+ h) (hne : k ≠ h) :
    ¬ Settled k := by
  induction hh with
  | start => exact absurd (List.suffix_nil.mp hk) hne
  | @next h x hh hs hx ih =>
    rcases List.suffix_cons_iff.mp hk with rfl | hk
    · exact absurd rfl hne
    · by_cases he : k = h
      · rw [he]
        exact hs
      · exact ih hk he

theorem written_prefix_of_suffix (hk : k <:+ h) : written k <+: written h := by
  obtain ⟨l, rfl⟩ := hk
  induction l with
  | nil => exact List.prefix_refl _
  | cons x l ih => exact ih.trans (List.prefix_append _ _)

theorem MayFollow.of_write {addr : UInt32} {mode : Addressing} {block : Bytes}
    {o : Except Errno Unit} (hx : MayFollow base image b h (.writeBlock addr mode block o)) :
    addr = base ∧ mode = .fifo ∧ ∃ n rest, Asks n h ∧ 0 < n.toNat ∧ written h ++ rest = image ∧
      rest ≠ [] ∧ block = rest.take n.toNat := by
  cases hx with
  | block ha hn hr hne => exact ⟨rfl, rfl, _, _, ha, hn, hr, hne, rfl⟩

theorem Orderly.written_prefix (hh : Orderly base image b h) : written h <+: image := by
  induction hh with
  | start => exact List.nil_prefix
  | @next h x hh hs hx ih =>
    cases hx with
    | block ha hn hr hne =>
      rename_i n rest o
      rw [← hr]
      refine List.prefix_append_right_inj _ |>.mpr ?_
      cases o with
      | error e => exact List.nil_prefix
      | ok _ => exact List.take_prefix _ _
    | _ => simpa only [written_readByte] using ih

/-- A block after which another one is written is as long as the chip has asked. -/
theorem Orderly.whole (hh : Orderly base image b h) {addr : UInt32} {mode : Addressing}
    {block : Bytes} {o : Except Errno Unit} {l : List Access} {y : Access}
    (hk : .writeBlock addr mode block o :: k <:+ l) (hl : y :: l <:+ h) (hy : y.isWrite)
    (ha : Asks n k) : block.length = n.toNat := by
  have hkl := (hk.trans (List.suffix_cons y l)).trans hl
  have hne : .writeBlock addr mode block o :: k ≠ h := by
    rintro rfl
    have h₁ := hk.length_le
    have h₂ := hl.length_le
    simp only [List.length_cons] at h₁ h₂
    omega
  cases hh.suffix hkl with
  | next _ _ hx =>
  cases hh.suffix hl with
  | next _ _ hy' =>
  obtain ⟨rfl, rfl, m, rest, hm, -, hr, -, hb⟩ := hx.of_write
  cases y with
  | writeBlock addr mode next o' =>
    obtain ⟨-, -, m', rest', -, -, hr', hne', -⟩ := hy'.of_write
    cases o with
    | error e => exact absurd (.inl ⟨_, k, rfl, rfl⟩) (hh.not_settled hkl hne)
    | ok _ =>
      -- Something is left for the later block, so this one has not taken all there was.
      have hw := (written_prefix_of_suffix hk).length_le
      have h₁ := congrArg List.length hr
      have h₂ := congrArg List.length hr'
      have h₃ := congrArg List.length hb
      have h₄ := List.length_pos_iff.mpr hne'
      simp only [written, Access.block?, Option.getD_some, List.length_append,
        List.length_take] at hw h₁ h₂ h₃
      rw [ha.unique hm]
      omega
  | _ => cases hy

end Firmware

end SdioWlan
