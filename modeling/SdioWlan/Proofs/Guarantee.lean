import Mathlib.Order.Defs.Unbundled
import SdioWlan.Link

namespace SdioWlan

variable {S ε δ α β : Type}

/-- `R` relates the state before `x` to the state after it, whether `x` fails or not. -/
def Guarantees (R : S → S → Prop) (x : ExceptT ε (StateM S) α) : Prop := ∀ s, R s (x s).2

theorem work_bind_apply (x : ExceptT ε (StateM S) α) (f : α → ExceptT ε (StateM S) β) (s : S) :
    (x >>= f) s = match x s with
      | (.ok a, t) => f a t
      | (.error e, t) => (.error e, t) := by
  simp only [bind, ExceptT.bind, ExceptT.mk, StateT.bind, ExceptT.bindCont]
  rcases x s with ⟨_ | _, _⟩ <;> rfl

theorem work_tryCatch_apply (x : ExceptT ε (StateM S) α) (f : ε → ExceptT ε (StateM S) α) (s : S) :
    (tryCatch x f) s = match x s with
      | (.ok a, t) => (.ok a, t)
      | (.error e, t) => f e t := by
  simp only [tryCatch, tryCatchThe, MonadExceptOf.tryCatch, ExceptT.tryCatch, ExceptT.mk,
    StateT.bind, bind]
  rcases x s with ⟨_ | _, _⟩ <;> rfl

theorem work_adapt_of_ok {f : ε → δ} {x : ExceptT ε (StateM S) α} {s t : S} {a : α}
    (h : x s = (.ok a, t)) : (ExceptT.adapt f x : ExceptT δ (StateM S) α) s = (.ok a, t) := by
  have ha : (ExceptT.adapt f x : ExceptT δ (StateM S) α) s = ((x s).1.mapError f, (x s).2) := rfl
  rw [ha, h]
  rfl

theorem work_adapt_of_error {f : ε → δ} {x : ExceptT ε (StateM S) α} {s t : S} {e : ε}
    (h : x s = (.error e, t)) :
    (ExceptT.adapt f x : ExceptT δ (StateM S) α) s = (.error (f e), t) := by
  have ha : (ExceptT.adapt f x : ExceptT δ (StateM S) α) s = ((x s).1.mapError f, (x s).2) := rfl
  rw [ha, h]
  rfl

namespace Guarantees

variable {R : S → S → Prop}

theorem adapt {f : ε → δ} {x : ExceptT ε (StateM S) α} (hx : Guarantees R x) :
    Guarantees R (ExceptT.adapt f x : ExceptT δ (StateM S) α) := fun s ↦ hx s

theorem ite {c : Prop} [Decidable c] {x y : ExceptT ε (StateM S) α} (hx : c → Guarantees R x)
    (hy : ¬ c → Guarantees R y) : Guarantees R (if c then x else y) := by
  by_cases h : c
  · simpa only [if_pos h] using hx h
  · simpa only [if_neg h] using hy h

variable [IsPreorder S R]

theorem pure (a : α) : Guarantees R (Pure.pure a : ExceptT ε (StateM S) α) := fun s ↦ refl_of R s

theorem throw (e : ε) : Guarantees R (throw e : ExceptT ε (StateM S) α) := fun s ↦ refl_of R s

theorem lift (x : Except ε α) : Guarantees R (liftM x : ExceptT ε (StateM S) α) := by
  intro s
  cases x <;> exact refl_of R s

theorem lift_bind {x : Except ε α} {f : α → ExceptT ε (StateM S) β}
    (h : ∀ a, x = .ok a → Guarantees R (f a)) :
    Guarantees R (liftM x >>= f : ExceptT ε (StateM S) β) := by
  intro s
  rw [work_bind_apply]
  cases x with
  | error e => exact refl_of R s
  | ok a => exact h a rfl s

theorem bind {x : ExceptT ε (StateM S) α} {f : α → ExceptT ε (StateM S) β} (hx : Guarantees R x)
    (hf : ∀ a, Guarantees R (f a)) : Guarantees R (x >>= f) := by
  intro s
  have h := hx s
  rw [work_bind_apply]
  rcases he : x s with ⟨e | a, t⟩
  · simpa only [he] using h
  · rw [he] at h
    exact trans_of R h (hf a t)

theorem tryCatch {x : ExceptT ε (StateM S) α} {f : ε → ExceptT ε (StateM S) α}
    (hx : Guarantees R x) (hf : ∀ e, Guarantees R (f e)) : Guarantees R (tryCatch x f) := by
  intro s
  have h := hx s
  rw [work_tryCatch_apply]
  rcases he : x s with ⟨e | a, t⟩
  · rw [he] at h
    exact trans_of R h (hf e t)
  · simpa only [he] using h

theorem poll {point : WaitPoint} {probe : ExceptT DriverError (StateM S) (Option α)}
    (h : Guarantees R probe) (n : Nat) : Guarantees R (SdioWlan.poll point probe n) := by
  induction n with
  | zero => exact throw _
  | succ n ih =>
    refine h.bind fun a ↦ ?_
    cases a with
    | none => exact ih
    | some a => exact pure a

end Guarantees

end SdioWlan
