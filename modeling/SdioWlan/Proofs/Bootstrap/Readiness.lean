import SdioWlan.Proofs.Bootstrap.Order
import SdioWlan.Proofs.Restart
import SdioWlan.Proofs.StationLink
import SdioWlan.SimulatedChip

namespace SdioWlan

def Call.guarded : Call → Bool
  | scan .. | scanSsid .. | connect .. | startAp .. | stopAp | deauthClient .. | sendData .. => true
  | init | shutdown | serviceInterrupt | disconnect | leased .. => false

def Session.lastTold {σ : Type} (s : Session σ) : Option (Except DriverError Mac) :=
  s.link.past.findSome? Action.initialized?

abbrev Session.isReady {σ : Type} (s : Session σ) : Bool := s.driver.boot.isReady

/-- A start fails before the chip has power, with a driver that is ready from the time before. -/
def Step.Misleads {σ : Type} (m : Step σ) : Prop :=
  (∃ e, m.trigger = .powered (.error e)) ∧ m.before.isReady

/-- Since the last such start nothing has been told, and no other has powered the chip up. -/
def Misled {σ : Type} (ms : List (Step σ)) : Prop :=
  ∃ a k b, ms = a ++ k :: b ∧ k.Misleads ∧ ∀ x ∈ b, x.told = [] ∧ ¬ x.Restarts

theorem misled_concat {σ : Type} {ms : List (Step σ)} {m : Step σ} :
    Misled (ms ++ [m]) ↔ m.Misleads ∨ Misled ms ∧ m.told = [] ∧ ¬ m.Restarts := by
  constructor
  · rintro ⟨a, k, b, h, hk, hb⟩
    rcases List.eq_nil_or_concat b with rfl | ⟨b, y, rfl⟩
    · obtain ⟨-, hm⟩ := List.append_inj' h rfl
      cases hm
      exact .inl hk
    · rw [List.concat_eq_append, ← List.cons_append, ← List.append_assoc] at h
      obtain ⟨rfl, hm⟩ := List.append_inj' h rfl
      cases hm
      exact .inr ⟨⟨a, k, b, rfl, hk, fun x hx ↦ hb x (by simp [hx])⟩, hb m (by simp)⟩
  · rintro (hk | ⟨⟨a, k, b, rfl, hk, hb⟩, hm⟩)
    · exact ⟨ms, m, [], rfl, hk, by simp⟩
    · refine ⟨a, k, b ++ [m], by simp, hk, ?_⟩
      simp only [List.forall_mem_append, List.forall_mem_singleton]
      exact ⟨hb, hm⟩

theorem Bootstrap.isReady_of_stage {b : Bootstrap} {stage : BootStage} (h : b.stage = stage)
    (hs : stage ≠ .ready) : b.isReady = false := by
  simp [isReady, h, hs]

namespace Step

variable {σ : Type} {m : Step σ}

inductive Tells (m : Step σ) : Prop
  | nothing (ht : m.told = []) (hm : ¬ m.Misleads) (hr : ¬ m.Restarts)
      (h : m.after.isReady = m.before.isReady)
  | start (ht : m.told = []) (hm : ¬ m.Misleads) (hr : m.Restarts) (h : m.after.isReady = false)
  | failure {e : DriverError} (ht : m.told = [.error e]) (h : m.Misleads ↔ m.after.isReady)
  | success {mac : Mac} (ht : m.told = [.ok mac]) (hm : ¬ m.Misleads) (h : m.after.isReady)

theorem not_misleads (h : ∀ e, m.trigger ≠ .powered (.error e)) : ¬ m.Misleads := by
  rintro ⟨⟨e, he⟩, -⟩
  exact h e he

theorem tells_of_failure {e : DriverError} (ht : m.told = [.error e])
    (hp : ∀ e, m.trigger ≠ .powered (.error e)) (h : m.after.isReady = false) : m.Tells :=
  .failure ht (iff_of_false (not_misleads hp) (by simp [h]))

theorem Idles.tells (h : m.Idles) (hp : ∀ e, m.trigger ≠ .powered (.error e))
    (hb : m.after.driver.boot = m.before.driver.boot) : m.Tells :=
  .nothing h.untold (not_misleads hp) h.stays (congrArg Bootstrap.isReady hb)

theorem tells_of_reacts {f : Bytes} (ht : m.trigger = .frame f)
    (h : m.before.driver.boot.Reacts m.message m.outcome m.actions m.after.driver.boot) :
    m.Tells := by
  have htold : m.told = m.actions.filterMap Action.initialized? := rfl
  have hp (e : DriverError) : m.trigger ≠ .powered (.error e) := by simp [ht]
  have hidle (hd : ∀ x ∈ m.actions, x.Detached)
      (hb : m.after.driver.boot = m.before.driver.boot) : m.Tells :=
    (idles_of_detached (by simp [ht]) hd).tells hp hb
  generalize m.message = msg, m.outcome = o, m.actions = l, hc : m.after.driver.boot = c
    at h htold hidle
  cases h with
  | unrelated _ hd => exact hidle hd rfl
  | late | malformed | unawaited => exact hidle (by simp) rfl
  | shutDown => exact tells_of_failure htold hp (by rw [Session.isReady, hc]; rfl)
  | rejected _ _ hn =>
    refine tells_of_failure htold hp ?_
    rw [Session.isReady, hc, Bootstrap.fail_isReady]
    exact hn
  | advanced _ hs hn hsend =>
    obtain ⟨hboots, hnext⟩ := BootStage.awaited?_boots hn
    have hbefore : m.before.isReady = false := by
      refine Bootstrap.isReady_of_stage rfl fun h0 ↦ ?_
      rw [h0] at hs
      cases hs
    rcases hsend.written hboots with ⟨-, hb, -, hi⟩ | ⟨e, -, hb, hi⟩
    · refine .nothing (htold.trans hi) (not_misleads hp) (by simp [Restarts, ht]) ?_
      rw [hbefore, Session.isReady, hc]
      exact Bootstrap.isReady_of_stage hb hnext
    · refine tells_of_failure (htold.trans hi) hp ?_
      rw [Session.isReady, hc]
      exact Bootstrap.isReady_of_stage hb (by simp)
  | completed => exact .success htold (not_misleads hp) (by rw [Session.isReady, hc]; rfl)

theorem BootEffect.tells (h : m.BootEffect) : m.Tells := by
  cases h with
  | bus ht hb hl => exact (idles_of_bus ht hl).tells (by simp [ht]) hb
  | call ht hb hl => exact (idles_of_detached (by simp [ht]) hl).tells (by simp [ht]) hb
  | @powerless e ht hl hb =>
    have hready : m.after.isReady = m.before.isReady := by
      rw [Session.isReady, hb, Bootstrap.fail_isReady]
    have htold : m.told = [.error e] := by
      rw [told, hl]
      rfl
    exact .failure htold ⟨fun hm ↦ hready.trans hm.2, fun hr ↦ ⟨⟨e, ht⟩, hready.symm.trans hr⟩⟩
  | powered ht hs =>
    rcases hs.written rfl with ⟨-, hb, -, hi⟩ | ⟨e, -, hb, hi⟩
    · exact .start hi (not_misleads (by simp [ht])) ⟨_, ht⟩
        (Bootstrap.isReady_of_stage hb (by simp))
    · exact tells_of_failure hi (by simp [ht]) (Bootstrap.isReady_of_stage hb (by simp))
  | frame ht hr => exact tells_of_reacts ht hr

end Step

/-- A driver that is ready has told so last or has misled, and one that has misled is ready. -/
structure Readied {σ : Type} (ms : List (Step σ)) (s : Session σ) : Prop where
  ready : s.isReady → (∃ mac, s.lastTold = some (.ok mac)) ∨ Misled ms
  misled : Misled ms → s.isReady ∧ ∃ e, s.lastTold = some (.error e)

theorem Step.lastTold_after {σ : Type} {m : Step σ}
    (h : m.after.link.past = m.actions ++ m.before.link.past) :
    m.after.lastTold = m.told.head?.or m.before.lastTold := by
  rw [Session.lastTold, h, List.findSome?_append, told, List.head?_filterMap]
  rfl

theorem Readied.step {σ : Type} {ms : List (Step σ)} {m : Step σ} (h : Readied ms m.before)
    (ht : m.Tells) (hp : m.after.link.past = m.actions ++ m.before.link.past) :
    Readied (ms ++ [m]) m.after := by
  have hlast := Step.lastTold_after hp
  cases ht with
  | nothing ht hm hr hready =>
    have hiff : Misled (ms ++ [m]) ↔ Misled ms := by simp [misled_concat, hm, ht, hr]
    rw [ht, List.head?_nil, Option.none_or] at hlast
    refine ⟨fun ha ↦ ?_, fun ha ↦ ?_⟩
    · rw [hlast, hiff]
      exact h.ready (hready.symm.trans ha)
    · rw [hlast, hready]
      exact h.misled (hiff.mp ha)
  | start ht hm hr hready =>
    have hn : ¬ Misled (ms ++ [m]) := by simp [misled_concat, hm, hr]
    refine ⟨fun ha ↦ ?_, fun ha ↦ absurd ha hn⟩
    rw [hready] at ha
    cases ha
  | @failure e ht hm =>
    have hiff : Misled (ms ++ [m]) ↔ m.Misleads := by simp [misled_concat, ht]
    rw [ht, List.head?_cons, Option.some_or] at hlast
    exact ⟨fun ha ↦ .inr (hiff.mpr (hm.mpr ha)), fun ha ↦ ⟨hm.mp (hiff.mp ha), e, hlast⟩⟩
  | @success mac ht hm hready =>
    have hn : ¬ Misled (ms ++ [m]) := by simp [misled_concat, hm, ht]
    rw [ht, List.head?_cons, Option.some_or] at hlast
    exact ⟨fun _ ↦ .inl ⟨mac, hlast⟩, fun ha ↦ absurd ha hn⟩

namespace Session

variable {σ : Type} [Platform σ] {s : Session σ}

/-- A driver that is not ready turns a guarded call down before it does anything. -/
theorem perform_of_not_ready (h : s.isReady = false) {c : Call} (hc : c.guarded) :
    perform c s = (.error .invalidState, s) := by
  cases c with
  | scan | scanSsid => simp only [perform, startScan, ensureReady_bind_of_not_ready h]
  | connect => simp only [perform, connect, ensureReady_bind_of_not_ready h]
  | startAp => simp only [perform, startAp, ensureReady_bind_of_not_ready h]
  | stopAp | deauthClient => simp only [perform, ensureReady_bind_of_not_ready h]
  | sendData => simp only [perform, sendData, ensureReady_bind_of_not_ready h]
  | init | shutdown | serviceInterrupt | disconnect | leased => cases hc

/-- A driver that is ready writes the command that stops an access point. -/
theorem stopAp_written (hf : s.driver.channel.held = false) (h : s.isReady) :
    ∃ a, (perform .stopAp s).2.link.past = a :: s.link.past := by
  have hp : perform .stopAp s = issue .bssStop .get [] s := ensureReady_bind_of_ready h _
  obtain ⟨c, hc⟩ : ∃ c, Command.encode .bssStop .get []
      ⟨s.driver.connection.target.bssid, s.driver.connection.target.capability⟩ = .ok c := ⟨_, rfl⟩
  rw [hp, issue_of_encode (by decide) hc]
  obtain ⟨o, -, -, hl⟩ := sendCommand_issues hf c
  exact ⟨_, hl⟩

end Session

variable {σ : Type} [Platform σ] {config : Config} {firmware : FirmwareSource} {device : σ}

open Session ScriptedChip

theorem Path.readied {ms : List (Step σ)} {t : Session σ}
    (h : Path (fresh config firmware device) ms t) : Readied ms t := by
  refine h.rec_snoc ⟨fun ha ↦ ?_, fun ha ↦ ?_⟩ fun ms m hp hg ih ↦ ?_
  · cases ha
  · obtain ⟨a, k, b, hn, -⟩ := ha
    cases a <;> cases hn
  · have hs := hp.sound (fresh_sound config firmware device)
    exact ih.step (hg.bootEffect hs).tells (hg.effect hs).2

/-- In every state of every run: the driver takes the chip for ready only if the application was
told so last, and when the application was last told of a failure the guarded calls are turned down
with no effect at all, exactly unless a start has failed before the chip had power, with a driver
that was ready, and nothing has been told and no chip powered up since. -/
theorem readiness_told {calls : List Call} {ms post : List (Step σ)}
    (h : steps calls (fresh config firmware device) = ms ++ post) :
    let t := (fresh config firmware device).after ms
    ((t.isReady → ∃ mac, t.lastTold = some (.ok mac)) ↔ ¬ Misled ms) ∧
      ∀ e, t.lastTold = some (.error e) →
        ((∀ c : Call, c.guarded → perform c t = (.error .invalidState, t)) ↔ ¬ Misled ms) := by
  intro t
  have hp := steps_path calls (fresh config firmware device)
  rw [h] at hp
  obtain ⟨u, hp, -⟩ := hp.split
  obtain rfl : t = u := after_of_path hp
  have hr := hp.readied
  refine ⟨⟨fun hready hm ↦ ?_, fun hm hready ↦ ?_⟩, fun e he ↦ ⟨fun hc hm ↦ ?_, fun hm c hc ↦ ?_⟩⟩
  · obtain ⟨ha, e, he⟩ := hr.misled hm
    obtain ⟨mac, hmac⟩ := hready ha
    cases he.symm.trans hmac
  · exact (hr.ready hready).resolve_right hm
  · have hf := (hp.sound (fresh_sound config firmware device)).free
    obtain ⟨a, ha⟩ := stopAp_written hf (hr.misled hm).1
    rw [hc .stopAp rfl] at ha
    exact List.cons_ne_self _ _ ha.symm
  · refine perform_of_not_ready ?_ hc
    rw [← Bool.not_eq_true]
    intro hready
    obtain ⟨mac, hmac⟩ := (hr.ready hready).resolve_right hm
    cases he.symm.trans hmac

def ScriptedChip.refusing : Session ScriptedChip :=
  .fresh {} (.image [165, 165]) ⟨[response .funcInit 1 []]⟩

theorem readiness_told_refused :
    let ms := steps [.init, .serviceInterrupt] refusing
    (refusing.after ms).lastTold = some (.error (.rejected 0xA9 1)) ∧
      ∀ c : Call, c.guarded →
        perform c (refusing.after ms) = (.error .invalidState, refusing.after ms) := by
  intro ms
  have h : ms = ms ++ [] := (List.append_nil ms).symm
  have hlast : (refusing.after ms).lastTold = some (.error (.rejected 0xA9 1)) := by decide +kernel
  have hidle : ms.all (fun m ↦ !m.before.isReady) := by decide +kernel
  refine ⟨hlast, ((readiness_told h).2 _ hlast).mpr ?_⟩
  rintro ⟨a, k, b, hms, ⟨-, hready⟩, -⟩
  have hk := List.all_eq_true.mp hidle k (by rw [hms]; simp)
  rw [hready] at hk
  cases hk

/-- A chip that comes up, and cannot be reset a second time. -/
def SimulatedChip.stubborn : SimulatedChip :=
  (SimulatedChip.new.addFaults [⟨.reset, none, -5, 1, 1⟩]).announce
    { frames := bootFrames.zipIdx.map fun f ↦ (f.2 + 1, f.1) }

/-- The second start fails and is told, and the driver is ready all the same: it writes the
command that stops an access point. -/
theorem ready_after_failed_start :
    let s := Session.fresh {} (.image [165, 165]) SimulatedChip.stubborn
    let t := s.after (steps [.init, .serviceInterrupt, .init] s)
    t.lastTold = some (.error (.transfer (-5))) ∧ t.isReady ∧
      (perform .stopAp t).1 = .ok () ∧ perform .stopAp t ≠ (.error .invalidState, t) := by
  intro s t
  have ht : t.lastTold = some (.error (.transfer (-5))) ∧ t.isReady ∧
      (perform .stopAp t).1 = .ok () := by decide +kernel
  refine ⟨ht.1, ht.2.1, ht.2.2, fun he ↦ ?_⟩
  have ho := ht.2.2
  rw [he] at ho
  cases ho

end SdioWlan
