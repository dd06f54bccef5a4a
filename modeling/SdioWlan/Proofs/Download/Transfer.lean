import SdioWlan.Proofs.Download.Protocol
import SdioWlan.Proofs.Transcript

namespace SdioWlan.Firmware

variable {base : UInt32} {image : Bytes} {b : FirmwareBudgets} {h : List Access} {n : UInt16}

variable {σ : Type} [Platform σ]

def ReadBoth (P : List Access → Prop) (lo hi : UInt32) (r : Except Errno UInt16)
    (h : List Access) : Prop :=
  (∃ e x k, r = .error e ∧ h = x :: k ∧ x.failed) ∨
    ∃ l u k, P k ∧ h = .readByte hi (.ok u) :: .readByte lo (.ok l) :: k ∧ r = .ok (ofLe16 l u)

theorem read16_triple {P : List Access → Prop} {lo hi : UInt32}
    (hl : lo ≠ Register.chunkLengthHigh)
    (hP : ∀ h, P h → Orderly base image b h ∧ ¬ Settled h ∧
      ∀ o, MayFollow base image b h (.readByte lo o))
    (hh : ∀ h l o, MayFollow base image b (.readByte lo (.ok l) :: h) (.readByte hi o)) :
    Link.Triple P (Link.read16 lo hi : Link.Transfer σ UInt16) fun r h ↦
      Orderly base image b h ∧ ReadBoth P lo hi r h := by
  let M (r : Except Errno UInt8) (h : List Access) : Prop :=
    ∃ k, P k ∧ Orderly base image b h ∧ h = .readByte lo r :: k
  have hlow : Link.Triple P (Link.readByte lo : Link.Transfer σ UInt8) M := by
    refine .readByte fun h hp o ↦ ⟨h, hp, ?_, rfl⟩
    obtain ⟨ho, hs, hf⟩ := hP h hp
    exact .next ho hs (hf o)
  refine hlow.bind (fun l ↦ .bind (M := fun r h ↦ ∃ k, P k ∧ Orderly base image b h ∧
    h = .readByte hi r :: .readByte lo (.ok l) :: k) (.readByte ?_) ?_ ?_) ?_
  · rintro h ⟨k, hp, ho, rfl⟩ o
    exact ⟨k, hp, .next ho (not_settled_readByte hl l) (hh k l o), rfl⟩
  · rintro u
    refine .pure ?_
    rintro h ⟨k, hp, ho, rfl⟩
    exact ⟨ho, .inr ⟨l, u, k, hp, rfl, rfl⟩⟩
  · rintro e h ⟨k, hp, ho, rfl⟩
    exact ⟨ho, .inl ⟨e, _, _, rfl, rfl, rfl⟩⟩
  · rintro e h ⟨k, hp, ho, rfl⟩
    exact ⟨ho, .inl ⟨e, _, _, rfl, rfl, rfl⟩⟩

structure Waiting (base : UInt32) (image : Bytes) (b : FirmwareBudgets) (first : Bool)
    (rest : Bytes) (n : Nat) (h : List Access) : Prop where
  orderly : Orderly base image b h
  unsettled : ¬ Settled h
  written : written h ++ rest = image
  begun : h.any Access.isWrite = !first
  tries : probes (if first then Register.chunkLengthLow else Register.cardEvent) h + n =
    b.chunkReady.maxTries.toNat

def Waited (base : UInt32) (image : Bytes) (b : FirmwareBudgets) (rest : Bytes) :
    Except DriverError ChunkLength → List Access → Prop
  | .ok n, h => Orderly base image b h ∧ Firmware.written h ++ rest = image ∧ Asks n.size h
  | .error e, h => Orderly base image b h ∧ (∀ n, e ≠ .firmware (.oddChunk n)) ∧
      ∀ n, Asks n h → n &&& 1 = 0

/-- The end of one probe, after which the wait is over or goes on with `n` tries. -/
def Probed (base : UInt32) (image : Bytes) (b : FirmwareBudgets) (first : Bool)
    (rest : Bytes) (n : Nat) (r : Except DriverError (Option ChunkLength)) (h : List Access) :
    Prop :=
  (r = .ok none → Waiting base image b first rest n h) ∧
    (∀ m, r = .ok (some m) → Waited base image b rest (.ok m) h) ∧
    ∀ e, r = .error e → Waited base image b rest (.error e) h

variable {first : Bool} {rest : Bytes} {tries : Nat}

theorem probed_of_failed {x : Access} (ho : Orderly base image b (x :: h)) (hx : x.failed)
    (e : Errno) : Probed base image b first rest tries (.error (.transfer e)) (x :: h) := by
  refine ⟨by simp, by simp, ?_⟩
  rintro e' he
  cases he
  exact ⟨ho, by simp, fun _ ha ↦ absurd hx ha.not_failed⟩

/-- The chip is asked how much it wants. If it wants nothing the wait goes on. -/
theorem requested?_triple {P : List Access → Prop}
    (hP : ∀ h, P h → Orderly base image b h ∧ ¬ Settled h ∧
      ∀ o, MayFollow base image b h (.readByte Register.chunkLengthLow o))
    (hJ : ∀ h, P h → written h ++ rest = image ∧ h.any Access.isWrite = !first ∧
      ∀ lo hi, probes (if first then Register.chunkLengthLow else Register.cardEvent)
        (.readByte Register.chunkLengthHigh hi :: .readByte Register.chunkLengthLow lo :: h) +
          tries = b.chunkReady.maxTries.toNat) :
    Link.Triple P (requested? : Link.Work σ (Option ChunkLength))
      (Probed base image b first rest tries) := by
  refine .bind (M := fun r h ↦ ∃ r', r = r'.mapError .transfer ∧ Orderly base image b h ∧
    ReadBoth P Register.chunkLengthLow Register.chunkLengthHigh r' h) (.adapt ?_) ?_ ?_
  · exact (read16_triple (by decide) hP fun h l o ↦ .lengthHigh ⟨l, h, rfl⟩).mono
      (fun _ hp ↦ hp) fun r h hr ↦ ⟨r, rfl, hr⟩
  · intro m
    refine .pure ?_
    rintro h ⟨r, hr, ho, ⟨e, x, k, rfl, -, -⟩ | ⟨lo, hi, k, hp, rfl, rfl⟩⟩
    · cases hr
    cases hr
    obtain ⟨hw, hb, ht⟩ := hJ k hp
    by_cases hm : 0 < (ofLe16 lo hi).toNat
    · rw [dif_pos hm]
      refine ⟨by simp, ?_, by simp⟩
      rintro m he
      cases he
      exact ⟨ho, by simp only [written_readByte, hw], lo, hi, k, rfl, rfl⟩
    · rw [dif_neg hm]
      refine ⟨fun _ ↦ ⟨ho, not_settled_of_not_asks rfl fun n hn ↦ ?_, ?_, hb, ht _ _⟩, by simp,
        by simp⟩
      · have hz : ofLe16 lo hi = 0 := UInt16.toNat_inj.mp (Nat.eq_zero_of_not_pos hm)
        rw [hn.unique ⟨lo, hi, k, rfl, rfl⟩, hz]
        rfl
      · simp only [written_readByte, hw]
  · rintro e h ⟨r, hr, ho, ⟨e', x, k, rfl, rfl, hx⟩ | ⟨lo, hi, k, hp, rfl, rfl⟩⟩
    · cases hr
      exact probed_of_failed ho hx e'
    · cases hr

theorem isChunkReady_triple :
    Link.Triple (Waiting base image b false rest (tries + 1)) (isChunkReady : Link.Work σ Bool)
      fun r h ↦ Orderly base image b h ∧
        ((∃ e x k, r = .error (.transfer e) ∧ h = x :: k ∧ x.failed) ∨
          ∃ k ready card, Waiting base image b false rest (tries + 1) k ∧ r = .ok ready ∧
            (ready = true → Invites h) ∧ h = .readByte Register.cardEvent (.ok card) :: k) := by
  refine .bind (M := fun r h ↦ Orderly base image b h ∧ ∃ o k, r = o.mapError .transfer ∧
    Waiting base image b false rest (tries + 1) k ∧ h = .readByte Register.cardEvent o :: k)
    (.adapt (.readByte ?_)) ?_ ?_
  · intro h hj o
    have ht := hj.tries
    simp only [Bool.false_eq_true, if_false] at ht
    exact ⟨.next hj.orderly hj.unsettled (.status hj.begun (by omega)), o, h, rfl, hj, rfl⟩
  · intro card
    refine .pure ?_
    rintro h ⟨ho, o, k, hr, hj, rfl⟩
    cases o with
    | error e => cases hr
    | ok v =>
      cases hr
      refine ⟨ho, .inr ⟨k, _, card, hj, rfl, fun hf ↦ ?_, rfl⟩⟩
      simp only [Bool.and_eq_true, bne_iff_ne] at hf
      exact ⟨card, k, hf.1, hf.2, rfl⟩
  · rintro e h ⟨ho, o, k, hr, hj, rfl⟩
    cases o with
    | ok v => cases hr
    | error e' =>
      cases hr
      exact ⟨ho, .inl ⟨e', _, _, rfl, rfl, rfl⟩⟩

/-- A look at the state of the chip uses up one try. -/
theorem Waiting.looked {h : List Access} {card : UInt8}
    (hj : Waiting base image b false rest (tries + 1) h)
    (ho : Orderly base image b (.readByte Register.cardEvent (.ok card) :: h)) :
    Waiting base image b false rest tries (.readByte Register.cardEvent (.ok card) :: h) := by
  have ht := hj.tries
  simp only [Bool.false_eq_true, if_false] at ht
  refine ⟨ho, not_settled_readByte (by decide) card, ?_, hj.begun, ?_⟩
  · rw [written_readByte, hj.written]
  · simp only [Bool.false_eq_true, if_false, probes_readByte, if_true]
    omega

theorem firstLength_triple :
    Link.Triple (Waiting base image b true rest (tries + 1))
      (requested? : Link.Work σ (Option ChunkLength)) (Probed base image b true rest tries) := by
  refine requested?_triple (fun h hj ↦ ⟨hj.orderly, hj.unsettled, fun o ↦ ?_⟩) fun h hj ↦ ?_
  · have ht := hj.tries
    simp only [if_true] at ht
    exact .firstLength hj.begun (by omega)
  · have ht := hj.tries
    simp only [if_true] at ht
    refine ⟨hj.written, hj.begun, fun lo hi ↦ ?_⟩
    have hn : Register.chunkLengthHigh ≠ Register.chunkLengthLow := by decide
    simp only [if_true, probes_readByte, if_neg hn]
    omega

theorem nextLength?_triple (first : Bool) :
    Link.Triple (Waiting base image b first rest (tries + 1))
      (nextLength? first : Link.Work σ (Option ChunkLength))
      (Probed base image b first rest tries) := by
  cases first with
  | true => exact firstLength_triple
  | false =>
    have hn : Register.chunkLengthHigh ≠ Register.cardEvent ∧
      Register.chunkLengthLow ≠ Register.cardEvent := by decide
    refine .bind isChunkReady_triple (fun ready ↦ .ite (fun hr ↦ ?_) fun hr ↦ .pure ?_) ?_
    · refine requested?_triple ?_ ?_
      · rintro h ⟨ho, ⟨e, x, k, he, -⟩ | ⟨k, r, card, hj, he, hi, rfl⟩⟩
        · cases he
        cases he
        exact ⟨ho, not_settled_readByte (by decide) card, fun o ↦ .length (hi hr)⟩
      · rintro h ⟨ho, ⟨e, x, k, he, -⟩ | ⟨k, r, card, hj, he, hi, rfl⟩⟩
        · cases he
        have hw := hj.looked ho
        refine ⟨hw.written, hw.begun, fun lo hi ↦ ?_⟩
        have ht := hw.tries
        simp only [Bool.false_eq_true, if_false] at ht ⊢
        rw [probes_readByte, probes_readByte, if_neg hn.1, if_neg hn.2]
        exact ht
    · rintro h ⟨ho, ⟨e, x, k, he, -⟩ | ⟨k, r, card, hj, he, hi, rfl⟩⟩
      · cases he
      exact ⟨fun _ ↦ hj.looked ho, by simp, by simp⟩
    · rintro e h ⟨ho, ⟨e', x, k, he, rfl, hx⟩ | ⟨k, r, card, hj, he, hi, rfl⟩⟩
      · cases he
        exact probed_of_failed ho hx e'
      · cases he

/-- The point between two chunks: `rest` is what is left of the image. -/
structure Between (base : UInt32) (image : Bytes) (b : FirmwareBudgets) (first : Bool)
    (rest : Bytes) (h : List Access) : Prop where
  orderly : Orderly base image b h
  unsettled : ¬ Settled h
  written : written h ++ rest = image
  begun : h.any Access.isWrite = !first
  calm : ∀ addr, probes addr h = 0

/-- What has come of the image so far, as loading it ends. -/
def Loaded (base : UInt32) (image : Bytes) (b : FirmwareBudgets) (r : Except DriverError Unit)
    (h : List Access) : Prop :=
  Orderly base image b h ∧
    ∀ n, r = .error (.firmware (.oddChunk n)) ↔ Asks n h ∧ n &&& 1 ≠ 0

theorem Between.waiting {first : Bool} (h' : Between base image b first rest h) :
    Waiting base image b first rest b.chunkReady.maxTries.toNat h :=
  ⟨h'.orderly, h'.unsettled, h'.written, h'.begun, by rw [h'.calm, Nat.zero_add]⟩

theorem not_odd_of_not_settled (hs : ¬ Settled h) (ha : Asks n h) : n &&& 1 = 0 :=
  Decidable.of_not_not fun ho ↦ hs (.inr ⟨n, ha, ho⟩)

theorem loaded_of_not_settled {r : Except DriverError Unit} (ho : Orderly base image b h)
    (hs : ¬ Settled h) (hr : ∀ n, r ≠ .error (.firmware (.oddChunk n))) :
    Loaded base image b r h :=
  ⟨ho, fun n ↦ ⟨fun he ↦ absurd he (hr n), fun ha ↦ absurd (not_odd_of_not_settled hs ha.1) ha.2⟩⟩

theorem wait_triple (first : Bool) (rest : Bytes) :
    Link.Triple (Between base image b first rest)
      (b.chunkReady.poll .chunkReady (nextLength? first) : Link.Work σ ChunkLength)
      (Waited base image b rest) := by
  refine (Link.Triple.poll (Waiting base image b first rest) (fun n ↦ nextLength?_triple first)
    ?_ _).mono (fun h hb ↦ hb.waiting) fun _ _ hq ↦ hq
  intro h hj
  exact ⟨hj.orderly, by simp, fun n ha ↦ not_odd_of_not_settled hj.unsettled ha⟩

theorem sendChunks_triple (first : Bool) (rest : Bytes) :
    Link.Triple (Between base image b first rest)
      (sendChunks base b.chunkReady first rest : Link.Work σ Unit) fun r h ↦
        Loaded base image b r h ∧ (r = .ok () → ∃ f, Between base image b f [] h) := by
  induction first, rest using sendChunks.induct with
  | case1 first =>
    rw [sendChunks, dif_pos rfl]
    exact .pure fun h hb ↦ ⟨loaded_of_not_settled hb.orderly hb.unsettled (by simp),
      fun _ ↦ ⟨first, hb⟩⟩
  | case2 first rest hne ih =>
    rw [sendChunks, dif_neg hne]
    refine .bind (wait_triple first rest) (fun m ↦ .ite (fun ho ↦ .throw ?_) fun he ↦ ?_) ?_
    · rintro h ⟨ho', -, ha⟩
      refine ⟨⟨ho', fun n ↦ ⟨fun he ↦ ?_, fun hn ↦ ?_⟩⟩, by simp⟩
      · cases he
        exact ⟨ha, ho⟩
      · rw [hn.1.unique ha]
    · refine .bind (M := fun r h ↦ ∃ o, r = o.mapError .transfer ∧ ∃ k,
        h = .writeBlock base .fifo (rest.take m.size.toNat) o :: k ∧ Orderly base image b h ∧
          written k ++ rest = image) (.adapt (.writeBlock ?_)) (fun _ ↦ ?_) ?_
      · rintro h ⟨ho, hw, ha⟩ o
        have hs : ¬ Settled h := by
          rintro (⟨x, k, rfl, hx⟩ | ⟨n, hn, hd⟩)
          · exact ha.not_failed hx
          · exact he (hn.unique ha ▸ hd)
        exact ⟨o, rfl, h, rfl, .next ho hs (.block ha m.pos hw hne), hw⟩
      · refine (ih m).mono ?_ fun _ _ hq ↦ hq
        rintro h ⟨o, hr, k, rfl, ho, hw⟩
        cases o with
        | error e => cases hr
        | ok _ =>
          refine ⟨ho, not_settled_of_not_asks rfl fun n ha ↦ absurd ha not_asks_write, ?_, rfl,
            fun _ ↦ probes_writeBlock ..⟩
          rw [written, Access.block?, Option.getD_some, List.append_assoc, List.take_append_drop,
            hw]
      · rintro e h ⟨o, hr, k, rfl, ho, hw⟩
        cases o with
        | ok _ => cases hr
        | error e' =>
          cases hr
          exact ⟨⟨ho, fun n ↦ ⟨by simp, fun ha ↦ absurd ha.1 not_asks_write⟩⟩, by simp⟩
    · rintro e h ⟨ho, he, ha⟩
      refine ⟨⟨ho, fun n ↦ ⟨fun hn ↦ ?_, fun hn ↦ absurd (ha n hn.1) hn.2⟩⟩, by simp⟩
      cases hn
      exact absurd rfl (he n)

structure Marking (base : UInt32) (image : Bytes) (b : FirmwareBudgets) (n : Nat)
    (h : List Access) : Prop where
  orderly : Orderly base image b h
  unsettled : ¬ Settled h
  written : written h = image
  tries : probes Register.firmwareLow h + n = b.firmwareReady.maxTries.toNat

def Runs (h : List Access) : Prop :=
  ∃ lo hi k, ofLe16 lo hi = firmwareReady ∧
    h = .readByte Register.firmwareHigh (.ok hi) :: .readByte Register.firmwareLow (.ok lo) :: k

/-- The firmware's mark is looked at. -/
theorem started?_triple :
    Link.Triple (Marking base image b (tries + 1)) (started? : Link.Work σ (Option Unit)) fun r h ↦
      (r = .ok none → Marking base image b tries h) ∧
        (∀ a, r = .ok (some a) → Loaded base image b (.ok a) h ∧ written h = image ∧ Runs h) ∧
        ∀ e, r = .error e → Loaded base image b (.error e) h := by
  have hn : Register.firmwareHigh ≠ Register.firmwareLow ∧
    Register.firmwareHigh ≠ Register.chunkLengthHigh := by decide
  refine .bind (M := fun r h ↦ ∃ r', r = r'.mapError .transfer ∧ Orderly base image b h ∧
    ReadBoth (Marking base image b (tries + 1)) Register.firmwareLow Register.firmwareHigh r' h)
    (.adapt ?_) ?_ ?_
  · refine (read16_triple (by decide) (fun h hm ↦ ⟨hm.orderly, hm.unsettled, fun o ↦ ?_⟩)
      fun h l o ↦ .markHigh ⟨l, h, rfl⟩).mono (fun _ hp ↦ hp) fun r h hr ↦ ⟨r, rfl, hr⟩
    have ht := hm.tries
    exact .mark hm.written (by omega)
  · intro m
    refine .pure ?_
    rintro h ⟨r, hr, ho, ⟨e, x, k, rfl, -, -⟩ | ⟨lo, hi, k, hm, rfl, rfl⟩⟩
    · cases hr
    cases hr
    have hs : ¬ Settled (.readByte Register.firmwareHigh (.ok hi) ::
        .readByte Register.firmwareLow (.ok lo) :: k) := not_settled_readByte hn.2 hi
    have hw : written (.readByte Register.firmwareHigh (.ok hi) ::
        .readByte Register.firmwareLow (.ok lo) :: k) = image := by
      rw [written_readByte, written_readByte, hm.written]
    by_cases he : ofLe16 lo hi = firmwareReady
    · rw [if_pos he]
      exact ⟨by simp, fun a _ ↦ ⟨loaded_of_not_settled ho hs (by simp), hw, lo, hi, k, he, rfl⟩,
        by simp⟩
    · rw [if_neg he]
      refine ⟨fun _ ↦ ⟨ho, hs, hw, ?_⟩, by simp, by simp⟩
      have ht := hm.tries
      simp only [probes_readByte, if_neg hn.1, if_true]
      omega
  · rintro e h ⟨r, hr, ho, ⟨e', x, k, rfl, rfl, hx⟩ | ⟨lo, hi, k, hm, rfl, rfl⟩⟩
    · cases hr
      refine ⟨by simp, by simp, ?_⟩
      rintro e he
      cases he
      exact ⟨ho, fun n ↦ ⟨by simp, fun ha ↦ absurd hx ha.1.not_failed⟩⟩
    · cases hr

theorem not_settled_nil : ¬ Settled [] := by
  rintro (⟨x, k, he, -⟩ | ⟨n, ⟨lo, hi, k, -, he⟩, -⟩) <;> cases he

theorem download_triple :
    Link.Triple (fun h ↦ h = []) (download base image b : Link.Work σ Unit) fun r h ↦
      Loaded base image b r h ∧ (r = .ok () → written h = image ∧ Runs h) := by
  have hc : Link.Triple (fun h ↦ h = []) (sendChunks base b.chunkReady true image :
      Link.Work σ Unit) fun r h ↦
        Loaded base image b r h ∧ (r = .ok () → ∃ f, Between base image b f [] h) := by
    refine (sendChunks_triple true image).mono ?_ fun _ _ hq ↦ hq
    rintro h rfl
    exact ⟨.start, not_settled_nil, rfl, rfl, fun _ ↦ rfl⟩
  refine .ite (fun _ ↦ .throw ?_) fun _ ↦ .bind hc (fun _ ↦ ?_) ?_
  · rintro h rfl
    exact ⟨loaded_of_not_settled .start not_settled_nil (by simp), by simp⟩
  · refine (Link.Triple.poll (Marking base image b) (fun n ↦ started?_triple.mono (fun _ hp ↦ hp)
      ?_) ?_ _).mono ?_ fun _ _ hq ↦ hq
    · rintro r h ⟨hn, hf, he⟩
      exact ⟨hn, fun a ha ↦ ⟨(hf a ha).1, fun _ ↦ (hf a ha).2⟩, fun e hr ↦ ⟨he e hr, by simp⟩⟩
    · intro h hm
      exact ⟨loaded_of_not_settled hm.orderly hm.unsettled (by simp), by simp⟩
    · rintro h ⟨-, hb⟩
      obtain ⟨f, hb⟩ := hb rfl
      have hw := hb.written
      rw [List.append_nil] at hw
      exact ⟨hb.orderly, hb.unsettled, hw, by rw [hb.calm, Nat.zero_add]⟩
  · rintro e h ⟨hl, -⟩
    exact ⟨hl, by simp⟩

theorem nextLength?_within (first : Bool) :
    Link.Within 3 (nextLength? first : Link.Work σ (Option ChunkLength)) := by
  have hr : Link.Within 2 (requested? : Link.Work σ (Option ChunkLength)) :=
    .bind (n := 0) (.adapt (.read16 _ _)) fun _ ↦ .pure _
  cases first with
  | true => exact hr.mono (by decide)
  | false =>
    have hc : Link.Within 1 (isChunkReady : Link.Work σ Bool) :=
      .bind (n := 0) (.adapt (.readByte _)) fun _ ↦ .pure _
    exact .bind (n := 2) hc fun _ ↦ .ite (fun _ ↦ hr) fun _ ↦ .pure _

/-- A chunk is at least two bytes long, or the last. Each takes a wait and a write. -/
theorem sendChunks_within (b : Budget) (first : Bool) (image : Bytes) :
    Link.Within ((b.maxTries.toNat * 3 + 1) * ((image.length + 1) / 2))
      (sendChunks base b first image : Link.Work σ Unit) := by
  induction first, image using sendChunks.induct with
  | case1 first =>
    rw [sendChunks, dif_pos rfl]
    exact .pure _
  | case2 first image hne ih =>
    rw [sendChunks, dif_neg hne]
    have hp := List.length_pos_iff.mpr hne
    obtain ⟨q, hq⟩ : ∃ q, (image.length + 1) / 2 = q + 1 := ⟨(image.length + 1) / 2 - 1, by omega⟩
    have hw : (b.maxTries.toNat * 3 + 1) * ((image.length + 1) / 2) =
        b.maxTries.toNat * 3 + (1 + (b.maxTries.toNat * 3 + 1) * q) := by
      rw [hq, Nat.mul_succ]
      omega
    rw [hw]
    refine .bind (.poll (nextLength?_within first) _) fun n ↦ .ite (fun _ ↦ .throw _) fun he ↦ ?_
    refine .bind (.adapt (.writeBlock _ _ _)) fun _ ↦ (ih n).mono (Nat.mul_le_mul_left _ ?_)
    have hn : 2 ≤ n.size.toNat := by
      have hn := n.pos
      refine Nat.le_of_not_lt fun hc ↦ ?_
      have h1 : n.size = 1 := UInt16.toNat_inj.mp (by simpa using (by omega : n.size.toNat = 1))
      exact he (by rw [h1]; decide)
    rw [List.length_drop]
    omega

theorem download_within :
    Link.Within ((b.chunkReady.maxTries.toNat * 3 + 1) * ((image.length + 1) / 2) +
      b.firmwareReady.maxTries.toNat * 2) (download base image b : Link.Work σ Unit) := by
  refine .ite (fun _ ↦ .throw _) fun _ ↦ .bind (sendChunks_within _ _ _) fun _ ↦ .poll ?_ _
  exact .bind (n := 0) (.adapt (.read16 _ _)) fun _ ↦ .pure _

/-- How the image reaches the chip, whatever the chip answers. Every access is one that may follow
those before it, the blocks add up to the image, and it ends. -/
theorem download_transfers (base : UInt32) (image : Bytes) (b : FirmwareBudgets) (l : Link σ) :
    ∃ h, (download base image b l).2.past = h.map .access ++ l.past ∧
      Orderly base image b h ∧ written h <+: image ∧
      ((download base image b l).1 = .ok () → written h = image ∧ Runs h) ∧
      (∀ addr mode block o k m y n, .writeBlock addr mode block o :: k <:+ m → y :: m <:+ h →
        y.isWrite → Asks n k → block.length = n.toNat) ∧
      (∀ n, (download base image b l).1 = .error (.firmware (.oddChunk n)) ↔
        Asks n h ∧ n &&& 1 ≠ 0) ∧
      (∀ n k, k <:+ h → Asks n k → n &&& 1 ≠ 0 → k = h) ∧
      h.length ≤ (b.chunkReady.maxTries.toNat * 3 + 1) * ((image.length + 1) / 2) +
        b.firmwareReady.maxTries.toNat * 2 := by
  have hw : Link.Triple (fun h ↦ h = []) (download base image b : Link.Work σ Unit) fun _ h ↦
      h.length ≤ 0 + ((b.chunkReady.maxTries.toNat * 3 + 1) * ((image.length + 1) / 2) +
        b.firmwareReady.maxTries.toNat * 2) := by
    refine (download_within 0).mono ?_ fun _ _ hq ↦ hq
    rintro h rfl
    exact Nat.le_refl 0
  obtain ⟨h, hh, ⟨⟨ho, hodd⟩, hok⟩, hn⟩ := (download_triple.and hw) l [] l.past rfl rfl
  refine ⟨h, hh, ho, ho.written_prefix, hok, fun addr mode block o k m y n hk hm hy ha ↦
    ho.whole hk hm hy ha, hodd, fun n k hk ha hn ↦ ?_, by simpa using hn⟩
  exact Decidable.of_not_not fun hne ↦ ho.not_settled hk hne (.inr ⟨n, ha, hn⟩)

end SdioWlan.Firmware
