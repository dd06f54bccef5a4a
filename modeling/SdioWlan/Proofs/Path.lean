import Mathlib.Data.List.Induction
import SdioWlan.Proofs.Trace

namespace SdioWlan

variable {σ : Type}

def Action.IsAccess (a : Action) : Prop := ∃ x, a = .access x

abbrev Session.Silent : Session σ → Session σ → Prop :=
  Footprint (fun d ↦ { d with ports := { nextWrite := d.ports.nextWrite } }) Action.IsAccess

theorem Session.Silent.footprint {β : Type} {f : Driver → β} {P : Action → Prop} {s t : Session σ}
    (h : s.Silent t)
    (hf : ∀ d : Driver, f { d with ports := { nextWrite := d.ports.nextWrite } } = f d)
    (hp : ∀ a, P (.access a)) : Footprint f P s t := by
  obtain ⟨hk, l, hl, ha⟩ := h
  refine ⟨?_, l, hl, fun a hm ↦ ?_⟩
  · rw [← hf t.driver, ← hf s.driver]
    exact congrArg f hk
  · obtain ⟨x, rfl⟩ := ha a hm
    exact hp x

variable [Platform σ]

def Step.Genuine (m : Step σ) : Prop :=
  match m.trigger with
  | .bus => m.before.Silent m.after
  | .powered base => Session.afterPowerUp base m.before = (m.outcome, m.after)
  | .call c => c ≠ .init ∧ c ≠ .serviceInterrupt ∧
      Session.perform c m.before = (m.outcome, m.after)
  | .frame f => Session.receive f m.before = (m.outcome, m.after)

namespace Step.Genuine

variable {m : Step σ} {body : Bytes}

theorem answer_of_response (hg : m.Genuine) {id : CommandId} {result : UInt8}
    (hm : m.message = .response id result body) :
    Session.answer id result body m.before = (m.outcome, m.after) := by
  unfold message at hm
  unfold Genuine at hg
  split at hm
  · rename_i f ht
    rw [ht] at hg
    rwa [← Session.receive_response hm]
  all_goals cases hm

theorem onEventOf_of_event (hg : m.Genuine) {id : EventId} (hm : m.message = .event id body) :
    Session.onEventOf id body m.before = (m.outcome, m.after) := by
  unfold message at hm
  unfold Genuine at hg
  split at hm
  · rename_i f ht
    rw [ht] at hg
    rwa [← Session.receive_event hm]
  all_goals cases hm

theorem perform_of_call (hg : m.Genuine) {c : Call} (ht : m.trigger = .call c) :
    c ≠ .init ∧ c ≠ .serviceInterrupt ∧
      Session.perform c m.before = (m.outcome, m.after) := by
  unfold Genuine at hg
  rwa [ht] at hg

/-- What holds across everything that a step can be holds across the step. -/
theorem across {R : Session σ → Session σ → Prop} (hg : m.Genuine)
    (hb : m.trigger = .bus → m.before.Silent m.after → R m.before m.after)
    (hp : ∀ base, Guarantees R (Session.afterPowerUp base : Session.Act σ Unit))
    (hc : ∀ c, m.trigger = .call c → c ≠ .init → c ≠ .serviceInterrupt →
      Guarantees R (Session.perform c : Session.Act σ Unit))
    (hf : ∀ f, m.trigger = .frame f →
      Guarantees R (Session.receive f : Session.Act σ Unit)) : R m.before m.after := by
  unfold Genuine at hg
  split at hg
  · rename_i ht
    exact hb ht hg
  · rename_i base ht
    have h := hp base m.before
    rwa [hg] at h
  · rename_i c ht
    obtain ⟨hi, hs, hg⟩ := hg
    have h := hc c ht hi hs m.before
    rwa [hg] at h
  · rename_i f ht
    have h := hf f ht m.before
    rwa [hg] at h

end Step.Genuine

/-- Steps that follow one another, from the first state to the last. -/
inductive Path : Session σ → List (Step σ) → Session σ → Prop
  | nil (s : Session σ) : Path s [] s
  | cons {m : Step σ} {ms : List (Step σ)} {t : Session σ} :
      m.Genuine → Path m.after ms t → Path m.before (m :: ms) t

namespace Path

variable {s t u : Session σ} {m : Step σ} {ms ns pre post : List (Step σ)}

theorem one (h : m.Genuine) : Path m.before [m] m.after := .cons h (.nil _)

theorem bus {o : Except DriverError Unit} (h : s.Silent t) (h' : Path t ms u) :
    Path s (⟨.bus, s, o, t⟩ :: ms) u := .cons (m := ⟨.bus, s, o, t⟩) h h'

theorem frame {f : Bytes} {o : Except DriverError Unit} (h : Session.receive f s = (o, t))
    (h' : Path t ms u) : Path s (⟨.frame f, s, o, t⟩ :: ms) u :=
  .cons (m := ⟨.frame f, s, o, t⟩) h h'

theorem append (h : Path s ms t) (h' : Path t ns u) : Path s (ms ++ ns) u := by
  induction h with
  | nil => exact h'
  | cons hg _ ih => exact .cons hg (ih h')

theorem split (h : Path s (ms ++ ns) u) : ∃ t, Path s ms t ∧ Path t ns u := by
  induction ms generalizing s with
  | nil => exact ⟨s, .nil s, h⟩
  | cons m ms ih =>
    cases h with
    | cons hg h =>
      obtain ⟨t, h₁, h₂⟩ := ih h
      exact ⟨t, .cons hg h₁, h₂⟩

theorem eq_of_nil (h : Path s [] t) : s = t := by
  cases h
  rfl

theorem around (h : Path s (pre ++ m :: post) t) :
    Path s pre m.before ∧ m.Genuine ∧ Path m.after post t := by
  obtain ⟨u, h₁, h₂⟩ := h.split
  cases h₂ with
  | cons hg h₂ => exact ⟨h₁, hg, h₂⟩

/-- Induction over a run, from its first step on. -/
theorem rec_snoc {P : List (Step σ) → Session σ → Prop} (start : P [] s)
    (step : ∀ ms m, Path s ms m.before → m.Genuine → P ms m.before → P (ms ++ [m]) m.after)
    (h : Path s ms t) : P ms t := by
  induction ms using List.reverseRecOn generalizing t with
  | nil =>
    cases h
    exact start
  | append_singleton ms m ih =>
    obtain ⟨hp, hg, hn⟩ := h.around
    rw [← hn.eq_of_nil]
    exact step ms m hp hg (ih hp)

theorem genuine (h : Path s ms t) (hm : m ∈ ms) : m.Genuine := by
  obtain ⟨pre, post, rfl⟩ := List.append_of_mem hm
  exact h.around.2.1

theorem invariant {P : Session σ → Prop}
    (keep : ∀ m : Step σ, m.Genuine → P m.before → P m.after) (h : Path s ms t) (hs : P s) :
    P t := by
  induction h with
  | nil => exact hs
  | cons hg _ ih => exact ih (keep _ hg hs)

/-- What holds across each step holds across all of them. -/
theorem across {R : Session σ → Session σ → Prop} [IsPreorder (Session σ) R] (h : Path s ms t)
    (hr : ∀ m ∈ ms, R m.before m.after) : R s t := by
  induction h with
  | nil s => exact refl_of R s
  | @cons m ms t _ _ ih =>
    obtain ⟨hm, hms⟩ := List.forall_mem_cons.mp hr
    exact trans_of R hm (ih hms)

end Path

namespace Firmware

variable {P : Action → Prop} (hr : ∀ addr o, P (.access (.readByte addr o)))
include hr

theorem nextLength?_logs (first : Bool) :
    Guarantees (Logs P) (nextLength? first : Link.Work σ (Option ChunkLength)) := by
  have hq : Guarantees (Logs P) (requested? : Link.Work σ (Option ChunkLength)) :=
    .bind (.adapt (Link.read16_logs hr)) fun _ ↦ .pure _
  cases first with
  | true => exact hq
  | false =>
    refine .bind (.bind (.adapt (Link.readByte_logs (hr _))) fun _ ↦ .pure _) ?_
    intro ready
    exact .ite (fun _ ↦ hq) fun _ ↦ .pure _

theorem readControlPort_logs :
    Guarantees (Logs P) (readControlPort : Link.Transfer σ UInt32) := by
  have h (addr : UInt32) :
      Guarantees (Logs P) (Link.readByte addr : Link.Transfer σ UInt8) :=
    Link.readByte_logs (hr addr)
  exact .bind (h _) fun _ ↦ .bind (h _) fun _ ↦ .bind (h _) fun _ ↦ .pure _

variable (hb : ∀ addr mode block o, P (.access (.writeBlock addr mode block o)))
include hb

theorem sendChunks_logs (base : UInt32) (b : Budget) (first : Bool) (image : Bytes) :
    Guarantees (Logs P) (sendChunks base b first image : Link.Work σ Unit) := by
  induction first, image using sendChunks.induct with
  | case1 first => rw [sendChunks]; exact .pure _
  | case2 first image h ih =>
    rw [sendChunks, dif_neg h]
    refine .bind (.poll (nextLength?_logs hr first) _) fun n ↦ .ite (fun _ ↦ .throw _) fun ho ↦ ?_
    exact .bind (.adapt (Link.writeBlock_logs (hb _ _ _))) fun _ ↦ ih n

theorem download_logs (base : UInt32) (image : Bytes) (b : FirmwareBudgets) :
    Guarantees (Logs P) (download base image b : Link.Work σ Unit) := by
  refine .ite (fun _ ↦ .throw _) fun _ ↦ .bind (sendChunks_logs hr hb _ _ _ _) fun _ ↦ .poll ?_ _
  exact .bind (.adapt (Link.read16_logs hr)) fun _ ↦ .pure _

/-- Powering up reads and writes single registers, writes blocks, and may reset the chip. -/
theorem powerOn_logs (hw : ∀ addr value o, P (.access (.writeByte addr value o)))
    (ho : ∀ o, P (.access (.reset o))) (image : Bytes) (b : FirmwareBudgets) :
    Guarantees (Logs P) (powerOn image b : Link.Work σ UInt32) := by
  refine .bind (.adapt (Link.reset_logs ho)) fun _ ↦ .bind (.adapt (readControlPort_logs hr)) ?_
  intro base
  refine .bind (download_logs hr hb _ _ _) fun _ ↦ ?_
  exact .bind (.adapt (Link.writeByte_logs (hw _ _))) fun _ ↦ .pure _

end Firmware

namespace Session

theorem powerUp_footprint {β : Type} {f : Driver → β} {P : Action → Prop}
    (hr : ∀ addr o, P (.access (.readByte addr o)))
    (hb : ∀ addr mode block o, P (.access (.writeBlock addr mode block o)))
    (hw : ∀ addr value o, P (.access (.writeByte addr value o)))
    (ho : ∀ o, P (.access (.reset o))) :
    Guarantees (Footprint f P) (powerUp : Act σ UInt32) := by
  refine .bind (Footprint.view _) fun image ↦ .lift_bind fun bytes _ ↦ ?_
  exact .bind (Footprint.view _) fun budgets ↦
    Footprint.onLink (Firmware.powerOn_logs hr hb hw ho _ _)

theorem powerUp_silent : Guarantees Silent (powerUp : Act σ UInt32) :=
  powerUp_footprint (fun _ _ ↦ ⟨_, rfl⟩) (fun _ _ _ _ ↦ ⟨_, rfl⟩) (fun _ _ _ ↦ ⟨_, rfl⟩)
    fun _ ↦ ⟨_, rfl⟩

theorem openInterrupt_silent : Guarantees Silent (openInterrupt : Act σ Snapshot) := by
  have hr : Guarantees (Logs Action.IsAccess) (Snapshot.read : Link.Transfer σ Snapshot) :=
    .bind (Link.readBlock_logs fun _ ↦ ⟨_, rfl⟩) fun _ ↦ .pure _
  refine .bind (Footprint.onLink hr.adapt) fun snapshot ↦ ?_
  refine .bind (Footprint.onLink (.adapt (Link.writeByte_logs fun _ ↦ ⟨_, rfl⟩))) fun _ ↦ ?_
  exact .bind (Footprint.update fun _ ↦ rfl) fun _ ↦ .pure _

theorem readFrame_silent (snapshot : Snapshot) (port : Nat) :
    Guarantees Silent (readFrame snapshot port : Act σ Bytes) := by
  refine .ite (fun _ ↦ .throw _) fun _ ↦ .bind (Footprint.view _) fun address ↦ Footprint.onLink ?_
  exact .adapt (Link.readBlock_logs fun _ ↦ ⟨_, rfl⟩)

theorem fetch_silent (snapshot : Snapshot) :
    Guarantees Silent (fetch snapshot : Act σ (Option Bytes)) := by
  intro s
  simp only [fetch, bind_apply, view_apply]
  cases hn : s.driver.ports.nextReadable? with
  | none => exact refl_of Silent s
  | some next =>
    have hu : Silent s { s with driver := { s.driver with ports := next.2 } } := by
      have hw : next.2.nextWrite = s.driver.ports.nextWrite := by
        obtain ⟨-, hb⟩ | ⟨-, hb⟩ := PortAllocator.nextReadable?_cases hn <;> rw [hb]
      exact ⟨by rw [hw], refl_of (Logs _) s.link⟩
    exact trans_of Silent hu
      ((readFrame_silent snapshot next.1).bind (f := fun f ↦ pure (some f)) (fun _ ↦ .pure _) _)

theorem drainSteps_path (snapshot : Snapshot) (n : Nat) (s : Session σ) :
    Path s (drainSteps snapshot n s) (drain snapshot n s).2 := by
  induction n generalizing s with
  | zero => exact .nil s
  | succ n ih =>
    have hf := fetch_silent snapshot s
    simp only [drainSteps, drain_succ, bind_apply]
    rcases hs : fetch snapshot s with ⟨e | _ | f, t⟩
    · rw [hs] at hf
      exact .bus hf (.nil t)
    · rw [hs] at hf
      exact .bus hf (.nil t)
    · rw [hs] at hf
      simp only [bind_apply]
      rcases hr : receive f t with ⟨e | _, u⟩
      · exact .bus hf (.frame hr (.nil u))
      · exact .bus hf (.frame hr (ih u))

/-- Work on the frames that wait fails where one of its steps does. -/
theorem exists_drainStep_of_error {snapshot : Snapshot} {n : Nat} {s : Session σ} {e : DriverError}
    (h : (drain snapshot n s).1 = .error e) :
    ∃ m ∈ drainSteps snapshot n s, m.outcome = .error e := by
  induction n generalizing s with
  | zero => cases h
  | succ n ih =>
    simp only [drain_succ, bind_apply] at h
    simp only [drainSteps]
    rcases hs : fetch snapshot s with ⟨e' | _ | f, t⟩
    · rw [hs] at h
      exact ⟨_, List.mem_singleton_self _, h⟩
    · rw [hs] at h
      cases h
    · simp only [hs, bind_apply] at h ⊢
      rcases hr : receive f t with ⟨e' | _, u⟩
      · rw [hr] at h
        exact ⟨⟨.frame f, t, .error e', u⟩, List.mem_cons_of_mem _ (List.mem_singleton_self _), h⟩
      · rw [hr] at h
        obtain ⟨m, hm, ho⟩ := ih h
        exact ⟨m, List.mem_cons_of_mem _ (List.mem_cons_of_mem _ hm), ho⟩

theorem exists_step_of_error {s : Session σ} {e : DriverError}
    (h : (perform .serviceInterrupt s).1 = .error e) :
    ∃ m ∈ callSteps .serviceInterrupt s, m.outcome = .error e := by
  simp only [perform, serviceInterrupt_eq, bind_apply] at h
  simp only [callSteps]
  rcases hs : openInterrupt s with ⟨e' | snapshot, t⟩
  · rw [hs] at h
    exact ⟨_, List.mem_singleton_self _, h⟩
  · rw [hs] at h
    obtain ⟨m, hm, ho⟩ := exists_drainStep_of_error h
    exact ⟨m, List.mem_cons_of_mem _ hm, ho⟩

theorem callSteps_path (c : Call) (s : Session σ) : Path s (callSteps c s) (perform c s).2 := by
  cases c with
  | init =>
    rw [perform, init_eq]
    exact .bus (powerUp_silent s) (.one (m := ⟨.powered _, _, _, _⟩) rfl)
  | serviceInterrupt =>
    have ho := openInterrupt_silent s
    simp only [callSteps, perform, serviceInterrupt_eq, bind_apply]
    rcases hs : openInterrupt s with ⟨e | snapshot, t⟩
    · rw [hs] at ho
      exact .bus ho (.nil t)
    · rw [hs] at ho
      exact .bus ho (drainSteps_path _ _ _)
  | _ => exact .one (m := ⟨.call _, _, _, _⟩) ⟨by simp, by simp, rfl⟩

theorem steps_path (calls : List Call) (s : Session σ) :
    Path s (steps calls s) (run calls s).2 := by
  induction calls generalizing s with
  | nil => exact .nil s
  | cons c rest ih => exact (callSteps_path c s).append (ih _)

end Session

end SdioWlan
