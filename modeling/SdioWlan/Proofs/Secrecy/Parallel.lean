import SdioWlan.Proofs.Guarantee

namespace SdioWlan

variable {S ε δ α β γ : Type}

/-- From states that `E` relates, `x` and `y` have the same outcome and end in states that `E`
relates. -/
def Parallel (E : S → S → Prop) (x y : ExceptT ε (StateM S) α) : Prop :=
  ∀ s t, E s t → (x s).1 = (y t).1 ∧ E (x s).2 (y t).2

namespace Parallel

variable {E : S → S → Prop} {x y : ExceptT ε (StateM S) α}

theorem pure (a : α) : Parallel E (Pure.pure a : ExceptT ε (StateM S) α) (Pure.pure a) :=
  fun _ _ h ↦ ⟨rfl, h⟩

theorem throw (e : ε) : Parallel E (throw e : ExceptT ε (StateM S) α) (MonadExcept.throw e) :=
  fun _ _ h ↦ ⟨rfl, h⟩

theorem lift_bind_error {z z' : Except ε γ} {e : ε} (h : z = .error e) (h' : z' = .error e)
    {f g : γ → ExceptT ε (StateM S) β} :
    Parallel E (liftM z >>= f : ExceptT ε (StateM S) β) (liftM z' >>= g) := by
  subst h h'
  intro s t hs
  rw [work_bind_apply, work_bind_apply]
  exact ⟨rfl, hs⟩

theorem lift_bind_ok {z z' : Except ε γ} {a b : γ} (h : z = .ok a) (h' : z' = .ok b)
    {f g : γ → ExceptT ε (StateM S) β} (hf : Parallel E (f a) (g b)) :
    Parallel E (liftM z >>= f : ExceptT ε (StateM S) β) (liftM z' >>= g) := by
  subst h h'
  intro s t hs
  rw [work_bind_apply, work_bind_apply]
  exact hf s t hs

theorem lift_bind {z : Except ε γ} {f g : γ → ExceptT ε (StateM S) β}
    (h : ∀ a, z = .ok a → Parallel E (f a) (g a)) :
    Parallel E (liftM z >>= f : ExceptT ε (StateM S) β) (liftM z >>= g) := by
  cases z with
  | error e => exact lift_bind_error rfl rfl
  | ok a => exact lift_bind_ok rfl rfl (h a rfl)

theorem bind {f g : α → ExceptT ε (StateM S) β} (hx : Parallel E x y)
    (hf : ∀ a, Parallel E (f a) (g a)) : Parallel E (x >>= f) (y >>= g) := by
  intro s t hs
  obtain ⟨ho, he⟩ := hx s t hs
  rw [work_bind_apply, work_bind_apply]
  rcases hxs : x s with ⟨o, u⟩
  rcases hyt : y t with ⟨o', v⟩
  rw [hxs, hyt] at ho he
  obtain rfl : o = o' := ho
  cases o with
  | error e => exact ⟨rfl, he⟩
  | ok a => exact hf a u v he

theorem tryCatch {f g : ε → ExceptT ε (StateM S) α} (hx : Parallel E x y)
    (hf : ∀ e, Parallel E (f e) (g e)) : Parallel E (tryCatch x f) (MonadExcept.tryCatch y g) := by
  intro s t hs
  obtain ⟨ho, he⟩ := hx s t hs
  rw [work_tryCatch_apply, work_tryCatch_apply]
  rcases hxs : x s with ⟨o, u⟩
  rcases hyt : y t with ⟨o', v⟩
  rw [hxs, hyt] at ho he
  obtain rfl : o = o' := ho
  cases o with
  | error e => exact hf e u v he
  | ok a => exact ⟨rfl, he⟩

theorem ite {c : Prop} [Decidable c] {x' y' : ExceptT ε (StateM S) α} (h : c → Parallel E x y)
    (h' : ¬ c → Parallel E x' y') : Parallel E (if c then x else x') (if c then y else y') := by
  by_cases hc : c
  · simpa only [if_pos hc] using h hc
  · simpa only [if_neg hc] using h' hc

theorem adapt {f : ε → δ} (h : Parallel E x y) :
    Parallel E (ExceptT.adapt f x : ExceptT δ (StateM S) α) (ExceptT.adapt f y) := by
  intro s t hs
  obtain ⟨ho, he⟩ := h s t hs
  exact ⟨congrArg (Except.mapError f) ho, he⟩

theorem poll {point : WaitPoint} {probe : ExceptT DriverError (StateM S) (Option α)}
    (h : Parallel E probe probe) (n : Nat) :
    Parallel E (SdioWlan.poll point probe n) (SdioWlan.poll point probe n) := by
  induction n with
  | zero => exact throw _
  | succ n ih =>
    refine h.bind fun a ↦ ?_
    cases a with
    | none => exact ih
    | some a => exact pure a

end Parallel

end SdioWlan
