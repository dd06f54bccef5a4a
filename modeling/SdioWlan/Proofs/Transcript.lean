import SdioWlan.Link
import SdioWlan.Proofs.Guarantee

namespace SdioWlan.Link

variable {σ ε δ α β : Type}

/-- If the record starts with accesses that satisfy `P`, then after the work it starts with
accesses that satisfy `Q`, and what stood behind them stands there still. -/
def Triple (P : List Access → Prop) (w : ExceptT ε (StateM (Link σ)) α)
    (Q : Except ε α → List Access → Prop) : Prop :=
  ∀ (l : Link σ) (h : List Access) (past : List Action), l.past = h.map .access ++ past → P h →
    ∃ h', (w l).2.past = h'.map .access ++ past ∧ Q (w l).1 h'

namespace Triple

variable {P : List Access → Prop} {Q : Except ε α → List Access → Prop}

theorem mono {P' : List Access → Prop} {Q' : Except ε α → List Access → Prop}
    {w : ExceptT ε (StateM (Link σ)) α} (h : Triple P w Q) (hP : ∀ h, P' h → P h)
    (hQ : ∀ r h, Q r h → Q' r h) : Triple P' w Q' := by
  intro l h' past hl hp
  obtain ⟨k, hk, hq⟩ := h l h' past hl (hP h' hp)
  exact ⟨k, hk, hQ _ _ hq⟩

theorem pure {a : α} (h : ∀ h, P h → Q (.ok a) h) :
    Triple P (Pure.pure a : ExceptT ε (StateM (Link σ)) α) Q :=
  fun _ h' _ hl hp ↦ ⟨h', hl, h h' hp⟩

theorem throw {e : ε} (h : ∀ h, P h → Q (.error e) h) :
    Triple P (MonadExcept.throw e : ExceptT ε (StateM (Link σ)) α) Q :=
  fun _ h' _ hl hp ↦ ⟨h', hl, h h' hp⟩

theorem bind {M : Except ε α → List Access → Prop} {Q : Except ε β → List Access → Prop}
    {w : ExceptT ε (StateM (Link σ)) α} {f : α → ExceptT ε (StateM (Link σ)) β}
    (hw : Triple P w M) (hf : ∀ a, Triple (M (.ok a)) (f a) Q)
    (he : ∀ e h, M (.error e) h → Q (.error e) h) : Triple P (w >>= f) Q := by
  intro l h past hl hp
  obtain ⟨k, hk, hm⟩ := hw l h past hl hp
  rw [work_bind_apply]
  rcases hr : w l with ⟨e | a, m⟩
  · rw [hr] at hk hm
    exact ⟨k, hk, he e k hm⟩
  · rw [hr] at hk hm
    exact hf a m k past hk hm

theorem ite {c : Prop} [Decidable c] {w v : ExceptT ε (StateM (Link σ)) α}
    (hw : c → Triple P w Q) (hv : ¬ c → Triple P v Q) : Triple P (if c then w else v) Q := by
  by_cases h : c
  · simpa only [if_pos h] using hw h
  · simpa only [if_neg h] using hv h

theorem adapt {Q : Except δ α → List Access → Prop} {f : ε → δ}
    {w : ExceptT ε (StateM (Link σ)) α} (h : Triple P w fun r h ↦ Q (r.mapError f) h) :
    Triple P (ExceptT.adapt f w : ExceptT δ (StateM (Link σ)) α) Q := fun l ↦ h l

/-- Waiting keeps an invariant that knows how many tries are left. -/
theorem poll {point : WaitPoint} {probe : ExceptT DriverError (StateM (Link σ)) (Option α)}
    {Q : Except DriverError α → List Access → Prop} (J : Nat → List Access → Prop)
    (hp : ∀ n, Triple (J (n + 1)) probe fun r h ↦ (r = .ok none → J n h) ∧
      (∀ a, r = .ok (some a) → Q (.ok a) h) ∧ ∀ e, r = .error e → Q (.error e) h)
    (h0 : ∀ h, J 0 h → Q (.error (.timeout point)) h) (n : Nat) :
    Triple (J n) (SdioWlan.poll point probe n) Q := by
  induction n with
  | zero => exact .throw h0
  | succ n ih =>
    refine .bind (hp n) (fun a ↦ ?_) fun e h hm ↦ hm.2.2 e rfl
    cases a with
    | none => exact ih.mono (fun h hm ↦ hm.1 rfl) fun _ _ hq ↦ hq
    | some a => exact .pure fun h hm ↦ hm.2.1 a rfl

theorem and {w : ExceptT ε (StateM (Link σ)) α} {Q' : Except ε α → List Access → Prop}
    (h : Triple P w Q) (h' : Triple P w Q') : Triple P w fun r h ↦ Q r h ∧ Q' r h := by
  intro l k past hl hp
  obtain ⟨m, hm, hq⟩ := h l k past hl hp
  obtain ⟨m', hm', hq'⟩ := h' l k past hl hp
  obtain rfl := (List.map_inj_right fun _ _ ↦ Action.access.inj).mp
    (List.append_cancel_right (hm.symm.trans hm'))
  exact ⟨m, hm, hq, hq'⟩

variable [Platform σ]

theorem readByte {Q : Except Errno UInt8 → List Access → Prop} {addr : UInt32}
    (h : ∀ h, P h → ∀ o, Q o (.readByte addr o :: h)) :
    Triple P (Link.readByte addr : Transfer σ UInt8) Q := by
  intro l h' past hl hp
  refine ⟨_ :: h', ?_, h h' hp _⟩
  rw [List.map_cons, List.cons_append, ← hl]
  rfl

theorem writeBlock {Q : Except Errno Unit → List Access → Prop} {addr : UInt32}
    {mode : Addressing} {block : Bytes}
    (h : ∀ h, P h → ∀ o, Q o (.writeBlock addr mode block o :: h)) :
    Triple P (Link.writeBlock addr mode block : Transfer σ Unit) Q := by
  intro l h' past hl hp
  refine ⟨_ :: h', ?_, h h' hp _⟩
  rw [List.map_cons, List.cons_append, ← hl]
  rfl

end Triple

/-- The work makes at most `n` accesses, however they end. -/
def Within (n : Nat) (w : ExceptT ε (StateM (Link σ)) α) : Prop :=
  ∀ m, Triple (fun h ↦ h.length ≤ m) w fun _ h ↦ h.length ≤ m + n

namespace Within

variable {m n : Nat}

theorem mono {w : ExceptT ε (StateM (Link σ)) α} (h : Within m w) (hn : m ≤ n) : Within n w :=
  fun k ↦ (h k).mono (fun _ hp ↦ hp) fun _ _ hq ↦ Nat.le_trans hq (Nat.add_le_add_left hn k)

theorem pure (a : α) : Within n (Pure.pure a : ExceptT ε (StateM (Link σ)) α) :=
  fun m ↦ .pure fun _ hp ↦ Nat.le_trans hp (Nat.le_add_right m n)

theorem throw (e : ε) : Within n (MonadExcept.throw e : ExceptT ε (StateM (Link σ)) α) :=
  fun m ↦ .throw fun _ hp ↦ Nat.le_trans hp (Nat.le_add_right m n)

theorem bind {w : ExceptT ε (StateM (Link σ)) α} {f : α → ExceptT ε (StateM (Link σ)) β}
    (hw : Within m w) (hf : ∀ a, Within n (f a)) : Within (m + n) (w >>= f) := by
  intro k
  refine .bind (hw k) (fun a ↦ (hf a (k + m)).mono (fun _ hp ↦ hp) fun _ h hq ↦ ?_) fun _ h hq ↦ ?_
  · rwa [Nat.add_assoc] at hq
  · omega

theorem ite {c : Prop} [Decidable c] {w v : ExceptT ε (StateM (Link σ)) α} (hw : c → Within n w)
    (hv : ¬ c → Within n v) : Within n (if c then w else v) :=
  fun k ↦ .ite (fun h ↦ hw h k) fun h ↦ hv h k

theorem adapt {f : ε → δ} {w : ExceptT ε (StateM (Link σ)) α} (h : Within n w) :
    Within n (ExceptT.adapt f w : ExceptT δ (StateM (Link σ)) α) := fun k ↦ .adapt (h k)

theorem poll {point : WaitPoint} {probe : ExceptT DriverError (StateM (Link σ)) (Option α)}
    (h : Within m probe) (n : Nat) : Within (n * m) (SdioWlan.poll point probe n) := by
  induction n with
  | zero => exact .throw _
  | succ n ih =>
    rw [Nat.succ_mul, Nat.add_comm]
    refine h.bind fun a ↦ ?_
    cases a with
    | none => exact ih
    | some a => exact .pure a

variable [Platform σ]

theorem readByte (addr : UInt32) : Within 1 (Link.readByte addr : Transfer σ UInt8) :=
  fun _ ↦ .readByte fun _ hp _ ↦ Nat.succ_le_succ hp

theorem writeBlock (addr : UInt32) (mode : Addressing) (block : Bytes) :
    Within 1 (Link.writeBlock addr mode block : Transfer σ Unit) :=
  fun _ ↦ .writeBlock fun _ hp _ ↦ Nat.succ_le_succ hp

theorem read16 (lo hi : UInt32) : Within 2 (Link.read16 lo hi : Transfer σ UInt16) :=
  bind (n := 1) (readByte lo) fun _ ↦ bind (n := 0) (readByte hi) fun _ ↦ .pure _

end Within

end SdioWlan.Link
