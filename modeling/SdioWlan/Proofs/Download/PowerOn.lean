import SdioWlan.Proofs.Download.Transfer

namespace SdioWlan.Firmware

variable {base : UInt32} {image : Bytes} {b : FirmwareBudgets} {h d q : List Access}

def Shown (h : List Access) : Prop := ∃ k, k <:+ h ∧ Runs k

theorem shown_cons_iff {x : Access} : Shown (x :: h) ↔ Runs (x :: h) ∨ Shown h := by
  constructor
  · intro hs
    obtain ⟨k, hk, hr⟩ := hs
    rcases List.suffix_cons_iff.mp hk with rfl | hk
    · exact .inl hr
    · exact .inr ⟨k, hk, hr⟩
  · intro hs
    rcases hs with hr | ⟨k, hk, hr⟩
    · exact ⟨_, List.suffix_refl _, hr⟩
    · exact ⟨k, hk.trans (List.suffix_cons x h), hr⟩

theorem shown_cons_of_not_reads {x : Access} (hx : x.reads Register.firmwareHigh = false) :
    Shown (x :: h) ↔ Shown h := by
  rw [shown_cons_iff, or_iff_right]
  intro hr
  obtain ⟨lo, hi, k, -, he⟩ := hr
  cases he
  cases hx

/-- Without a look at the low byte there is no mark. -/
theorem not_shown (hq : ∀ x ∈ q, x.reads Register.firmwareLow = false) : ¬ Shown q := by
  intro hs
  obtain ⟨k, hk, lo, hi, l, -, rfl⟩ := hs
  have hl := hq _ (hk.subset (List.mem_cons_of_mem _ List.mem_cons_self))
  cases hl

/-- What was done before the firmware was loaded does not count for its mark. -/
theorem shown_append_iff (hq : ∀ x ∈ q, x.reads Register.firmwareLow = false) :
    Shown (d ++ q) ↔ Shown d := by
  induction d with
  | nil => exact iff_of_false (not_shown hq) (not_shown fun x hx ↦ by cases hx)
  | cons x d ih =>
    rw [List.cons_append, shown_cons_iff, shown_cons_iff, ih]
    refine or_congr_left ⟨fun hr ↦ ?_, fun hr ↦ ?_⟩
    · obtain ⟨lo, hi, k, hm, he⟩ := hr
      obtain ⟨hx, hd⟩ := List.cons.inj he
      cases d with
      | nil =>
        have hl : Access.reads Register.firmwareLow (.readByte Register.firmwareLow (.ok lo)) =
            false := hq _ (List.mem_of_mem_head? (congrArg List.head? hd))
        cases hl
      | cons y d =>
        exact ⟨lo, hi, d, hm, by rw [hx, (List.cons.inj hd).1]⟩
    · obtain ⟨lo, hi, k, hm, he⟩ := hr
      rw [← List.cons_append, he]
      exact ⟨lo, hi, k ++ q, hm, rfl⟩

/-- Once both bytes have been read it is known whether they are the mark. -/
theorem shown_iff_of_both {lo hi : UInt8}
    (hn : ¬ Shown (.readByte Register.firmwareLow (.ok lo) :: h)) :
    Shown (.readByte Register.firmwareHigh (.ok hi) ::
      .readByte Register.firmwareLow (.ok lo) :: h) ↔ ofLe16 lo hi = firmwareReady := by
  rw [shown_cons_iff, or_iff_left hn]
  constructor
  · intro hr
    obtain ⟨lo', hi', k, hm, he⟩ := hr
    cases he
    exact hm
  · intro hm
    exact ⟨lo, hi, h, hm, rfl⟩

theorem not_shown_of_error {e : Errno} (hn : ¬ Shown h) :
    ¬ Shown (.readByte Register.firmwareHigh (.error e) :: h) := by
  rw [shown_cons_iff, or_iff_left hn]
  intro hr
  obtain ⟨lo, hi, k, -, he⟩ := hr
  cases he

variable {σ : Type} [Platform σ]

theorem readByte_unshown {addr : UInt32} (ha : (addr == Register.firmwareHigh) = false) :
    Link.Triple (¬ Shown ·) (Link.readByte addr : Link.Transfer σ UInt8) fun _ h ↦ ¬ Shown h := by
  refine .readByte fun k hn o hs ↦ hn ?_
  have hx : Access.reads Register.firmwareHigh (.readByte addr o) = false := ha
  exact (shown_cons_of_not_reads hx).mp hs

theorem requested?_unshown :
    Link.Triple (¬ Shown ·) (requested? : Link.Work σ (Option ChunkLength)) fun _ h ↦ ¬ Shown h := by
  have hb : Link.Triple (¬ Shown ·)
      (Link.read16 Register.chunkLengthLow Register.chunkLengthHigh : Link.Transfer σ UInt16)
      fun _ h ↦ ¬ Shown h := by
    refine .bind (readByte_unshown rfl) (fun _ ↦ ?_) fun _ _ hn ↦ hn
    exact .bind (readByte_unshown rfl) (fun _ ↦ .pure fun _ hn ↦ hn) fun _ _ hn ↦ hn
  exact .bind (M := fun _ h ↦ ¬ Shown h) (.adapt hb) (fun _ ↦ .pure fun _ hn ↦ hn) fun _ _ hn ↦ hn

theorem nextLength?_unshown (first : Bool) :
    Link.Triple (¬ Shown ·) (nextLength? first : Link.Work σ (Option ChunkLength))
      fun _ h ↦ ¬ Shown h := by
  cases first with
  | true => exact requested?_unshown
  | false =>
    have hc : Link.Triple (¬ Shown ·) (isChunkReady : Link.Work σ Bool) fun _ h ↦ ¬ Shown h :=
      .bind (M := fun _ h ↦ ¬ Shown h) (.adapt (readByte_unshown rfl)) (fun _ ↦ .pure fun _ hn ↦ hn)
        fun _ _ hn ↦ hn
    refine .bind hc (fun ready ↦ ?_) fun _ _ hn ↦ hn
    exact .ite (fun _ ↦ requested?_unshown) fun _ ↦ .pure fun _ hn ↦ hn

/-- While chunks are sent nobody looks for the mark. -/
theorem sendChunks_unshown (base : UInt32) (b : Budget) (first : Bool) (image : Bytes) :
    Link.Triple (¬ Shown ·) (sendChunks base b first image : Link.Work σ Unit)
      fun _ h ↦ ¬ Shown h := by
  induction first, image using sendChunks.induct with
  | case1 first =>
    rw [sendChunks, dif_pos rfl]
    exact .pure fun _ hn ↦ hn
  | case2 first image hne ih =>
    have hw : Link.Triple (¬ Shown ·) (b.poll .chunkReady (nextLength? first) :
        Link.Work σ ChunkLength) fun _ h ↦ ¬ Shown h := by
      refine .poll (fun _ h ↦ ¬ Shown h) (fun _ ↦ ?_) (fun _ hn ↦ hn) _
      exact (nextLength?_unshown first).mono (fun _ hn ↦ hn) fun _ _ hn ↦
        ⟨fun _ ↦ hn, fun _ _ ↦ hn, fun _ _ ↦ hn⟩
    rw [sendChunks, dif_neg hne]
    refine .bind hw (fun n ↦ .ite (fun _ ↦ .throw fun _ hn ↦ hn) fun _ ↦ ?_) fun _ _ hn ↦ hn
    refine .bind (M := fun _ h ↦ ¬ Shown h) (.adapt (.writeBlock ?_)) (fun _ ↦ ih n) fun _ _ hn ↦ hn
    intro k hn o hs
    exact hn ((shown_cons_of_not_reads rfl).mp hs)

/-- Looking for the mark finds it exactly if it is there. -/
theorem started?_shows :
    Link.Triple (¬ Shown ·) (started? : Link.Work σ (Option Unit)) fun r h ↦
      r = .ok (some ()) ↔ Shown h := by
  let M (r : Except Errno UInt16) (h : List Access) : Prop := Shown h ↔ r = .ok firmwareReady
  have hm : Link.Triple (¬ Shown ·)
      (Link.read16 Register.firmwareLow Register.firmwareHigh : Link.Transfer σ UInt16) M := by
    refine .bind (M := fun r h ↦ ¬ Shown h ∧ ∃ k, h = .readByte Register.firmwareLow r :: k)
      (.readByte fun k hn o ↦ ⟨?_, k, rfl⟩) (fun lo ↦ ?_) fun e k hk ↦ ?_
    · rwa [shown_cons_of_not_reads rfl]
    · refine .bind (M := fun r h ↦ Shown h ↔ r.map (ofLe16 lo) = .ok firmwareReady)
        (.readByte ?_) (fun hi ↦ .pure fun k hk ↦ hk) fun e k hk ↦ ?_
      · intro k hk o
        obtain ⟨hn, k, rfl⟩ := hk
        cases o with
        | error e => exact iff_of_false (not_shown_of_error hn) nofun
        | ok hi =>
          rw [shown_iff_of_both hn, Except.map, Except.ok.injEq]
      · exact hk.trans (iff_of_false nofun nofun)
    · exact iff_of_false hk.1 nofun
  refine .bind (M := fun r h ↦ ∃ o : Except Errno UInt16, r = o.mapError .transfer ∧
    (Shown h ↔ o = .ok firmwareReady)) (.adapt (hm.mono (fun _ hn ↦ hn) fun o _ ho ↦ ⟨o, rfl, ho⟩))
    (fun mark ↦ .pure fun k hk ↦ ?_) fun e k hk ↦ ?_
  · obtain ⟨o, ho, hs⟩ := hk
    cases o with
    | error e => cases ho
    | ok v =>
      cases ho
      rw [hs]
      split <;> rename_i hv
      · exact iff_of_true rfl (congrArg _ hv)
      · exact iff_of_false nofun fun hk ↦ hv (Except.ok.inj hk)
  · obtain ⟨o, ho, hs⟩ := hk
    cases o with
    | error e => exact iff_of_false nofun fun hk ↦ by cases hs.mp hk
    | ok v => cases ho

/-- Loading ends well exactly if the mark is seen. -/
theorem download_shows :
    Link.Triple (fun h ↦ h = []) (download base image b : Link.Work σ Unit) fun r h ↦
      r = .ok () ↔ Shown h := by
  have hn : ¬ Shown [] := not_shown fun x hx ↦ by cases hx
  refine .ite (fun _ ↦ .throw ?_) fun _ ↦ ?_
  · intro k hk
    rw [hk]
    exact iff_of_false nofun hn
  · refine .bind (M := fun _ h ↦ ¬ Shown h) ((sendChunks_unshown _ _ _ _).mono ?_ fun _ _ hs ↦ hs)
      (fun _ ↦ ?_) fun e k hk ↦ iff_of_false nofun hk
    · intro k hk
      rwa [hk]
    · refine .poll (fun _ h ↦ ¬ Shown h) (fun _ ↦ ?_) (fun k hk ↦ iff_of_false nofun hk) _
      refine started?_shows.mono (fun _ hk ↦ hk) fun r k hk ↦ ⟨fun hr ↦ ?_, fun a hr ↦ ?_, ?_⟩
      · intro hs
        cases (hk.mpr hs).symm.trans hr
      · exact iff_of_true rfl (hk.mp hr)
      · intro e hr
        refine iff_of_false nofun fun hs ↦ ?_
        cases (hk.mpr hs).symm.trans hr

theorem download_history (base : UInt32) (image : Bytes) (b : FirmwareBudgets) (l : Link σ) :
    ∃ d, (download base image b l).2.past = d.map .access ++ l.past ∧ Orderly base image b d ∧
      ((download base image b l).1 = .ok () ↔ written d = image ∧ Shown d) := by
  obtain ⟨d, hd, ⟨⟨ho, -⟩, hr⟩, hs⟩ :=
    (download_triple.and download_shows) l [] l.past rfl rfl
  exact ⟨d, hd, ho, fun h ↦ ⟨(hr h).1, hs.mp h⟩, fun h ↦ hs.mpr h.2⟩

/-- The reset of a chip, which is taken as it is only where the platform has no reset line. -/
inductive Resets (l : Link σ) : Except Errno Unit → Link σ → Prop
  | noLine (hd : Platform.reset l.device = none) : Resets l (.ok ()) l
  | line {o : Except Errno Unit} {m : Link σ} (hd : Platform.reset l.device = some (o, m.device))
      (hm : m.past = .access (.reset o) :: l.past) : Resets l o m

structure ReadsByte (addr : UInt32) (l : Link σ) (o : Except Errno UInt8) (m : Link σ) : Prop where
  answered : Platform.readByte addr l.device = (o, m.device)
  recorded : m.past = .access (.readByte addr o) :: l.past

structure WritesByte (addr : UInt32) (value : UInt8) (l : Link σ) (o : Except Errno Unit)
    (m : Link σ) : Prop where
  answered : Platform.writeByte addr value l.device = (o, m.device)
  recorded : m.past = .access (.writeByte addr value o) :: l.past

/-- The base address of the ports is read from three registers, lowest byte first. -/
inductive ReadsBase (l : Link σ) : Except Errno UInt32 → Link σ → Prop
  | first {e : Errno} {m : Link σ} (h₀ : ReadsByte Register.controlPort0 l (.error e) m) :
      ReadsBase l (.error e) m
  | second {a : UInt8} {e : Errno} {m n : Link σ}
      (h₀ : ReadsByte Register.controlPort0 l (.ok a) m)
      (h₁ : ReadsByte Register.controlPort1 m (.error e) n) : ReadsBase l (.error e) n
  | third {a b : UInt8} {e : Errno} {m n k : Link σ}
      (h₀ : ReadsByte Register.controlPort0 l (.ok a) m)
      (h₁ : ReadsByte Register.controlPort1 m (.ok b) n)
      (h₂ : ReadsByte Register.controlPort2 n (.error e) k) : ReadsBase l (.error e) k
  | all {a b c : UInt8} {base : UInt32} {m n k : Link σ}
      (h₀ : ReadsByte Register.controlPort0 l (.ok a) m)
      (h₁ : ReadsByte Register.controlPort1 m (.ok b) n)
      (h₂ : ReadsByte Register.controlPort2 n (.ok c) k)
      (hb : base.toNat = a.toNat + 0x100 * b.toNat + 0x10000 * c.toNat) : ReadsBase l (.ok base) k

theorem reset_resets (l : Link σ) : Resets l (Link.reset l).1 (Link.reset l).2 := by
  unfold Link.reset
  split
  · rename_i hd
    exact .noLine hd
  · rename_i r hd
    exact .line hd rfl

theorem readByte_reads (addr : UInt32) (l : Link σ) :
    ReadsByte addr l (Link.readByte addr l).1 (Link.readByte addr l).2 := ⟨rfl, rfl⟩

theorem writeByte_writes (addr : UInt32) (value : UInt8) (l : Link σ) :
    WritesByte addr value l (Link.writeByte addr value l).1 (Link.writeByte addr value l).2 :=
  ⟨rfl, rfl⟩

theorem toNat_base (a b c : UInt8) : (UInt32.ofNat (leNat [a, b, c])).toNat =
    a.toNat + 0x100 * b.toNat + 0x10000 * c.toNat := by
  have ha := a.toNat_lt
  have hb := b.toNat_lt
  have hc := c.toNat_lt
  simp only [leNat, UInt32.toNat_ofNat']
  omega

theorem readControlPort_reads (l : Link σ) :
    ReadsBase l (readControlPort l).1 (readControlPort l).2 := by
  have h₀ := readByte_reads Register.controlPort0 l
  simp only [readControlPort, work_bind_apply]
  rcases he : (Link.readByte Register.controlPort0 : Link.Transfer σ UInt8) l with ⟨e | a, m⟩
  · rw [he] at h₀
    exact .first h₀
  rw [he] at h₀
  have h₁ := readByte_reads Register.controlPort1 m
  simp only
  rcases he : (Link.readByte Register.controlPort1 : Link.Transfer σ UInt8) m with ⟨e | b, n⟩
  · rw [he] at h₁
    exact .second h₀ h₁
  rw [he] at h₁
  have h₂ := readByte_reads Register.controlPort2 n
  simp only
  rcases he : (Link.readByte Register.controlPort2 : Link.Transfer σ UInt8) n with ⟨e | c, k⟩
  · rw [he] at h₂
    exact .third h₀ h₁ h₂
  rw [he] at h₂
  exact .all h₀ h₁ h₂ (toNat_base a b c)

/-- Powering up from this link on. The chip is reset, the base address is read, the firmware is
loaded, and the interrupts are let through, each from where the step before has left the link. -/
inductive PowersOn (image : Bytes) (b : FirmwareBudgets) (l : Link σ) :
    Except DriverError UInt32 × Link σ → Prop
  | notReset {e : Errno} {m : Link σ} (hr : Resets l (.error e) m) :
      PowersOn image b l (.error (.transfer e), m)
  | noBase {e : Errno} {m n : Link σ} (hr : Resets l (.ok ()) m) (hp : ReadsBase m (.error e) n) :
      PowersOn image b l (.error .unknownControlPort, n)
  | notLoaded {base : UInt32} {e : DriverError} {m n k : Link σ} (hr : Resets l (.ok ()) m)
      (hp : ReadsBase m (.ok base) n) (hd : download base image b n = (.error e, k)) :
      PowersOn image b l (.error e, k)
  | masked {base : UInt32} {e : Errno} {m n k t : Link σ} (hr : Resets l (.ok ()) m)
      (hp : ReadsBase m (.ok base) n) (hd : download base image b n = (.ok (), k))
      (hw : WritesByte Register.interruptMask uploadInterrupt k (.error e) t) :
      PowersOn image b l (.error .interruptMask, t)
  | done {base : UInt32} {m n k t : Link σ} (hr : Resets l (.ok ()) m)
      (hp : ReadsBase m (.ok base) n) (hd : download base image b n = (.ok (), k))
      (hw : WritesByte Register.interruptMask uploadInterrupt k (.ok ()) t) :
      PowersOn image b l (.ok base, t)

theorem powerOn_powersOn (image : Bytes) (b : FirmwareBudgets) (l : Link σ) :
    PowersOn image b l (powerOn image b l) := by
  have hr := reset_resets l
  simp only [powerOn, work_bind_apply]
  rcases he : Link.reset l with ⟨e | _, m⟩
  · rw [he] at hr
    rw [work_adapt_of_error he]
    exact .notReset hr
  rw [he] at hr
  simp only [work_adapt_of_ok he]
  have hp := readControlPort_reads m
  rcases hc : (readControlPort : Link.Transfer σ UInt32) m with ⟨e | base, n⟩
  · rw [hc] at hp
    rw [work_adapt_of_error hc]
    exact .noBase hr hp
  rw [hc] at hp
  simp only [work_adapt_of_ok hc]
  rcases hd : download base image b n with ⟨e | _, k⟩
  · exact .notLoaded hr hp hd
  have hw := writeByte_writes Register.interruptMask uploadInterrupt k
  rcases ht : (Link.writeByte Register.interruptMask uploadInterrupt : Link.Transfer σ Unit) k with
    ⟨e | _, t⟩
  · rw [ht] at hw
    simp only [work_adapt_of_error ht]
    exact .masked hr hp hd hw
  · rw [ht] at hw
    simp only [work_adapt_of_ok ht]
    exact .done hr hp hd hw

inductive Prepares : Access → Prop
  | reset (o : Except Errno Unit) : Prepares (.reset o)
  | base {addr : UInt32} {o : Except Errno UInt8}
      (ha : addr ∈ [Register.controlPort0, Register.controlPort1, Register.controlPort2]) :
      Prepares (.readByte addr o)

def Prepared (l m : Link σ) (q : List Access) : Prop :=
  m.past = q.map .access ++ l.past ∧ ∀ x ∈ q, Prepares x

theorem Resets.prepared {l m : Link σ} {o : Except Errno Unit} (hr : Resets l o m) :
    ∃ q, Prepared l m q := by
  cases hr with
  | noLine => exact ⟨[], rfl, fun x hx ↦ by cases hx⟩
  | line hd hm => exact ⟨[.reset o], hm, List.forall_mem_singleton.mpr (.reset o)⟩

theorem Prepared.read {l m n : Link σ} {addr : UInt32} {o : Except Errno UInt8}
    (hq : Prepared l m q) (hn : ReadsByte addr m o n)
    (ha : addr ∈ [Register.controlPort0, Register.controlPort1, Register.controlPort2]) :
    Prepared l n (.readByte addr o :: q) :=
  ⟨by rw [hn.recorded, hq.1]; rfl, List.forall_mem_cons.mpr ⟨.base ha, hq.2⟩⟩

theorem ReadsBase.prepared {l m n : Link σ} {o : Except Errno UInt32} (hp : ReadsBase m o n)
    (hr : ∃ q, Prepared l m q) : ∃ q, Prepared l n q := by
  obtain ⟨q, hq⟩ := hr
  cases hp with
  | first h₀ => exact ⟨_, hq.read h₀ (by decide)⟩
  | second h₀ h₁ => exact ⟨_, (hq.read h₀ (by decide)).read h₁ (by decide)⟩
  | third h₀ h₁ h₂ | all h₀ h₁ h₂ =>
    exact ⟨_, ((hq.read h₀ (by decide)).read h₁ (by decide)).read h₂ (by decide)⟩

theorem Prepares.reads {x : Access} (hx : Prepares x) : x.reads Register.firmwareLow = false := by
  cases hx with
  | reset o => rfl
  | base ha => exact beq_false_of_ne fun he ↦ by rw [he] at ha; revert ha; decide

theorem written_append_of_prepares (hq : ∀ x ∈ q, Prepares x) : written (d ++ q) = written d := by
  induction d with
  | nil =>
    induction q with
    | nil => rfl
    | cons x q ih =>
      obtain ⟨hx, hq⟩ := List.forall_mem_cons.mp hq
      have hw : written (x :: q) = written q := by
        cases hx with
        | reset o => exact List.append_nil _
        | base ha => exact List.append_nil _
      exact hw.trans (ih hq)
  | cons x d ih => rw [List.cons_append, written, written, ih]

inductive Loads (base : UInt32) (image : Bytes) : Access → Prop
  | read (addr : UInt32) (o : Except Errno UInt8) : Loads base image (.readByte addr o)
  | piece {block : Bytes} (hb : block <:+: image) (o : Except Errno Unit) :
      Loads base image (.writeBlock base .fifo block o)

theorem Orderly.loads (ho : Orderly base image b d) : ∀ x ∈ d, Loads base image x := by
  induction ho with
  | start => exact fun x hx ↦ by cases hx
  | next hh hs hx ih =>
    refine List.forall_mem_cons.mpr ⟨?_, ih⟩
    cases hx with
    | block ha hn hr hne =>
      refine .piece ?_ _
      rw [← hr]
      exact (List.take_prefix _ _).isInfix.trans (List.suffix_append _ _).isInfix
    | _ => exact .read _ _

inductive PowerAccess (image : Bytes) : Access → Prop
  | prepares {x : Access} (hx : Prepares x) : PowerAccess image x
  | loads {base : UInt32} {x : Access} (hx : Loads base image x) : PowerAccess image x
  | unmasks (o : Except Errno Unit) :
      PowerAccess image (.writeByte Register.interruptMask uploadInterrupt o)

def Unmasks (h : List Access) : Prop :=
  ∃ value o, .writeByte Register.interruptMask value o ∈ h

theorem not_unmasks (ho : Orderly base image b d) (hq : ∀ x ∈ q, Prepares x) :
    ¬ Unmasks (d ++ q) := by
  intro hu
  obtain ⟨value, o, hm⟩ := hu
  rcases List.mem_append.mp hm with hm | hm
  · cases ho.loads _ hm
  · cases hq _ hm

/-- Nothing but pieces of the image is written in blocks, and the interrupts are let through, or
tried to be, exactly if the whole image has been written and the chip has shown the mark. -/
structure Earned (image : Bytes) (h : List Access) : Prop where
  accesses : ∀ x ∈ h, PowerAccess image x
  unmasks : Unmasks h ↔ written h = image ∧ Shown h

theorem earned_of_prepares (hq : ∀ x ∈ q, Prepares x) : Earned image q where
  accesses x hx := .prepares (hq x hx)
  unmasks := by
    refine iff_of_false ?_ fun hs ↦ not_shown (fun x hx ↦ (hq x hx).reads) hs.2
    intro hu
    obtain ⟨value, o, hm⟩ := hu
    cases hq _ hm

/-- Loading after the first two steps leaves the interrupts masked. -/
theorem download_after (base : UInt32) (image : Bytes) (b : FirmwareBudgets) {l m : Link σ}
    (hq : Prepared l m q) :
    ∃ h, (download base image b m).2.past = h.map .access ++ l.past ∧
      (∀ x ∈ h, PowerAccess image x) ∧ ¬ Unmasks h ∧
      ((download base image b m).1 = .ok () ↔ written h = image ∧ Shown h) := by
  obtain ⟨d, hd, ho, hs⟩ := download_history base image b m
  obtain ⟨hm, hq⟩ := hq
  refine ⟨d ++ q, ?_, ?_, not_unmasks ho hq, ?_⟩
  · rw [hd, hm, List.map_append, List.append_assoc]
  · exact List.forall_mem_append.mpr ⟨fun x hx ↦ .loads (ho.loads x hx), fun x hx ↦
      .prepares (hq x hx)⟩
  · rwa [written_append_of_prepares hq, shown_append_iff fun x hx ↦ (hq x hx).reads]

theorem earned_of_unmasks (ha : ∀ x ∈ h, PowerAccess image x) (hw : written h = image)
    (hs : Shown h) (o : Except Errno Unit) :
    Earned image (.writeByte Register.interruptMask uploadInterrupt o :: h) where
  accesses := List.forall_mem_cons.mpr ⟨.unmasks o, ha⟩
  unmasks := by
    refine iff_of_true ⟨_, o, List.mem_cons_self⟩ ⟨?_, ?_⟩
    · exact (List.append_nil _).trans hw
    · exact (shown_cons_of_not_reads rfl).mpr hs

theorem WritesByte.earned {l n k t : Link σ} {o : Except Errno Unit} (hq : ∃ q, Prepared l n q)
    (hd : download base image b n = (.ok (), k))
    (hw : WritesByte Register.interruptMask uploadInterrupt k o t) :
    ∃ h, t.past = h.map .access ++ l.past ∧ Earned image h := by
  obtain ⟨q, hq⟩ := hq
  obtain ⟨h, hh, ha, -, hs⟩ := download_after base image b hq
  rw [hd] at hh hs
  obtain ⟨hi, hs⟩ := hs.mp rfl
  refine ⟨_, ?_, earned_of_unmasks ha hi hs o⟩
  rw [hw.recorded, hh, List.map_cons, List.cons_append]

theorem PowersOn.earned {l : Link σ} {r : Except DriverError UInt32 × Link σ}
    (hp : PowersOn image b l r) : ∃ h, r.2.past = h.map .access ++ l.past ∧ Earned image h := by
  cases hp with
  | notReset hr =>
    obtain ⟨q, hn, hq⟩ := hr.prepared
    exact ⟨q, hn, earned_of_prepares hq⟩
  | noBase hr hp =>
    obtain ⟨q, hn, hq⟩ := hp.prepared hr.prepared
    exact ⟨q, hn, earned_of_prepares hq⟩
  | notLoaded hr hp hd =>
    obtain ⟨q, hq⟩ := hp.prepared hr.prepared
    obtain ⟨h, hh, ha, hu, hs⟩ := download_after _ image b hq
    rw [hd] at hh hs
    exact ⟨h, hh, ha, iff_of_false hu fun hw ↦ by cases hs.mpr hw⟩
  | masked hr hp hd hw | done hr hp hd hw => exact hw.earned (hp.prepared hr.prepared) hd

end SdioWlan.Firmware
