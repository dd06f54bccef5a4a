import SdioWlan.Proofs.Checked.Building
import SdioWlan.Proofs.Guarantee
import SdioWlan.Session

namespace SdioWlan.Checked

variable {σ α β γ : Type}

abbrev Act (σ α : Type) := ExceptT DriverError (StateT (Session σ) (Except Fault)) α

def lift (x : Session.Act σ α) : Act σ α := fun s ↦ .ok (x s)

def compute (x : Except Fault α) : Act σ α := fun s ↦ x.map fun a ↦ (.ok a, s)

def attempt (x : Built α) : Act σ α := fun s ↦ x.run.map fun r ↦ (r, s)

theorem Act.bind_apply (y : Act σ α) (g : α → Act σ β) (s : Session σ) :
    (y >>= g) s = match y s with
      | .error f => .error f
      | .ok (.ok a, t) => g a t
      | .ok (.error e, t) => .ok (.error e, t) := by
  simp only [bind, ExceptT.bind, ExceptT.mk, StateT.bind, ExceptT.bindCont, Except.bind]
  rcases y s with f | ⟨e | a, t⟩ <;> rfl

theorem Act.tryCatch_apply (y : Act σ α) (g : DriverError → Act σ α) (s : Session σ) :
    (tryCatch y g) s = match y s with
      | .error f => .error f
      | .ok (.ok a, t) => .ok (.ok a, t)
      | .ok (.error e, t) => g e t := by
  simp only [tryCatch, tryCatchThe, MonadExceptOf.tryCatch, ExceptT.tryCatch, ExceptT.mk,
    StateT.bind, bind, Except.bind]
  rcases y s with f | ⟨e | a, t⟩ <;> rfl

def Yields {S ε : Type} (P : α → Prop) (x : ExceptT ε (StateM S) α) : Prop :=
  ∀ s a, (x s).1 = .ok a → P a

namespace Yields

variable {S ε δ : Type} {P : α → Prop} {Q : β → Prop} {x : ExceptT ε (StateM S) α}
  {f : α → ExceptT ε (StateM S) β}

theorem pure {a : α} (h : P a) : Yields P (Pure.pure a : ExceptT ε (StateM S) α) := by
  intro s b hb
  cases hb
  exact h

theorem throw (e : ε) : Yields P (MonadExcept.throw e : ExceptT ε (StateM S) α) := by
  intro s a h
  cases h

theorem bind_of (h : Yields P x) (h' : ∀ a, P a → Yields Q (f a)) : Yields Q (x >>= f) := by
  intro s b hb
  rw [work_bind_apply] at hb
  rcases hr : x s with ⟨e | a, t⟩
  · rw [hr] at hb
    cases hb
  · rw [hr] at hb
    exact h' a (h s a (congrArg Prod.fst hr)) t b hb

theorem bind (h : ∀ a, Yields Q (f a)) : Yields Q (x >>= f) :=
  bind_of (P := fun _ ↦ True) (fun _ _ _ ↦ trivial) fun a _ ↦ h a

theorem adapt {g : ε → δ} (h : Yields P x) : Yields P (ExceptT.adapt g x) := by
  intro s a ha
  have hg : (ExceptT.adapt g x s).1 = (x s).1.mapError g := rfl
  rw [hg] at ha
  cases hr : (x s).1 with
  | error e =>
    rw [hr] at ha
    cases ha
  | ok b =>
    rw [hr] at ha
    cases ha
    exact h s a hr

theorem tryCatch {g : ε → ExceptT ε (StateM S) α} (h : Yields P x) (h' : ∀ e, Yields P (g e)) :
    Yields P (MonadExcept.tryCatch x g) := by
  intro s a ha
  rw [work_tryCatch_apply] at ha
  rcases hr : x s with ⟨e | b, t⟩
  · rw [hr] at ha
    exact h' e t a ha
  · rw [hr] at ha
    exact h s a ((congrArg Prod.fst hr).trans ha)

end Yields

/-- The chip names the base of its ports in three bytes. -/
def Based (s : Session σ) : Prop := s.driver.base.toNat < 0x1000000

/-- Wherever the ports can be, `y` is not at fault and does what `x` does. -/
def Agrees (y : Act σ α) (x : Session.Act σ α) : Prop :=
  ∀ s, Based s → y s = .ok (x s) ∧ Based (x s).2

namespace Agrees

variable {y : Act σ α} {x : Session.Act σ α} {g : α → Act σ β} {f : α → Session.Act σ β}

theorem of_apply (h : ∀ s, Based s → ∃ y' x', y s = y' s ∧ x s = x' s ∧ Agrees y' x') :
    Agrees y x := by
  intro s hs
  obtain ⟨y', x', hy, hx, ha⟩ := h s hs
  rw [hy, hx]
  exact ha s hs

theorem pure (a : α) : Agrees (Pure.pure a : Act σ α) (Pure.pure a) := fun _ hs ↦ ⟨rfl, hs⟩

theorem throw (e : DriverError) : Agrees (MonadExcept.throw e : Act σ α) (MonadExcept.throw e) :=
  fun _ hs ↦ ⟨rfl, hs⟩

theorem lift (h : ∀ s, (x s).2.driver.base = s.driver.base) : Agrees (Checked.lift x) x := by
  intro s hs
  refine ⟨rfl, ?_⟩
  rw [Based, h]
  exact hs

/-- What goes on after `y` may know what every result of `x` is like. -/
theorem bind_of {P : α → Prop} (h : Agrees y x) (hp : Yields P x)
    (h' : ∀ a, P a → Agrees (g a) (f a)) : Agrees (y >>= g) (x >>= f) := by
  intro s hs
  obtain ⟨hy, hx⟩ := h s hs
  rw [Act.bind_apply, Session.bind_apply, hy]
  rcases hr : x s with ⟨e | a, t⟩
  · rw [hr] at hx
    exact ⟨rfl, hx⟩
  · rw [hr] at hx
    exact h' a (hp s a (congrArg Prod.fst hr)) t hx

theorem bind (h : Agrees y x) (h' : ∀ a, Agrees (g a) (f a)) : Agrees (y >>= g) (x >>= f) :=
  h.bind_of (P := fun _ ↦ True) (fun _ _ _ ↦ trivial) fun a _ ↦ h' a

theorem lift_bind (hx : ∀ s, (x s).2.driver.base = s.driver.base)
    (h : ∀ a, Agrees (g a) (f a)) : Agrees (Checked.lift x >>= g) (x >>= f) := (lift hx).bind h

theorem view_bind {v : Driver → α} (h : ∀ a, Agrees (g a) (f a)) :
    Agrees (Checked.lift (Session.view v) >>= g) (Session.view v >>= f) :=
  lift_bind (fun _ ↦ rfl) h

theorem update_bind {u : Driver → Driver} {g : Unit → Act σ β} {f : Unit → Session.Act σ β}
    (hu : ∀ d, (u d).base = d.base) (h : ∀ a, Agrees (g a) (f a)) :
    Agrees (Checked.lift (Session.update u) >>= g) (Session.update u >>= f) :=
  lift_bind (fun s ↦ hu s.driver) h

theorem tryCatch {g : DriverError → Act σ α} {f : DriverError → Session.Act σ α} (h : Agrees y x)
    (h' : ∀ e, Agrees (g e) (f e)) :
    Agrees (MonadExcept.tryCatch y g) (MonadExcept.tryCatch x f) := by
  intro s hs
  obtain ⟨hy, hx⟩ := h s hs
  rw [Act.tryCatch_apply, Session.tryCatch_apply, hy]
  rcases hr : x s with ⟨e | a, t⟩
  · rw [hr] at hx
    exact h' e t hx
  · rw [hr] at hx
    exact ⟨rfl, hx⟩

theorem ite {c : Prop} [Decidable c] {y' : Act σ α} {x' : Session.Act σ α} (h : c → Agrees y x)
    (h' : ¬ c → Agrees y' x') : Agrees (if c then y else y') (if c then x else x') := by
  by_cases hc : c
  · simpa only [if_pos hc] using h hc
  · simpa only [if_neg hc] using h' hc

theorem compute_bind {z : Except Fault α} {a : α} {x : Session.Act σ β} (hz : z = .ok a)
    (h : Agrees (g a) x) : Agrees (compute z >>= g) x := by
  subst hz
  exact h

theorem attempt_bind {z : Built α} {r : Except DriverError α} (hz : z = ExceptT.mk (.ok r))
    (h : ∀ a, r = .ok a → Agrees (g a) (f a)) : Agrees (attempt z >>= g) (liftM r >>= f) := by
  subst hz
  cases r with
  | error e => exact fun _ hs ↦ ⟨rfl, hs⟩
  | ok a => exact h a rfl

theorem attempt_map_bind {z : Built γ} {r : Except DriverError α} {p : α → γ} {k : γ → Act σ β}
    (hz : z = ExceptT.mk (.ok (r.map p))) (h : ∀ a, r = .ok a → Agrees (k (p a)) (f a)) :
    Agrees (attempt z >>= k) (liftM r >>= f) := by
  subst hz
  cases r with
  | error e => exact fun _ hs ↦ ⟨rfl, hs⟩
  | ok a => exact h a rfl

/-- Something computed from what the driver knows, which it has in another form. -/
theorem view_compute_map_bind {v : Driver → γ} {δ : Type} {z : γ → Except Fault δ}
    {w : Driver → α} {p : α → δ} {k : δ → Act σ β} (hz : ∀ d, z (v d) = .ok (p (w d)))
    (h : ∀ d, Agrees (k (p (w d))) (f (w d))) :
    Agrees (Checked.lift (Session.view v) >>= fun c ↦ compute (z c) >>= k)
      (Session.view w >>= f) := by
  refine of_apply fun s hs ↦ ⟨k (p (w s.driver)), f (w s.driver), ?_, rfl, h _⟩
  rw [Act.bind_apply]
  simp only [Checked.lift, Session.view, hz]
  rfl

theorem view_compute_bind {v : Driver → γ} {z : γ → Except Fault α} {w : Driver → α}
    (hz : ∀ d, z (v d) = .ok (w d)) (h : ∀ a, Agrees (g a) (f a)) :
    Agrees (Checked.lift (Session.view v) >>= fun c ↦ compute (z c) >>= g)
      (Session.view w >>= f) :=
  view_compute_map_bind (p := fun a ↦ a) hz fun d ↦ h (w d)

end Agrees

end SdioWlan.Checked
