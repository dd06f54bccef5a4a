import SdioWlan.Proofs.Insulation
import SdioWlan.Proofs.ScriptedChip

namespace SdioWlan

structure Station.Spares (a : Station) (l : List Action) (b : Station) : Prop where
  status : b.connection.status = a.connection.status
  target : b.connection.target = a.connection.target
  retries : b.connection.retriesLeft = a.connection.retriesLeft
  only_scan : ∀ x ∈ l, ∃ r, x = .report (.scanResult r)

/-- A response for which nobody waits spares an attempt, or denies it and makes it fail. -/
theorem Reaction.spares_or_fails {id : CommandId} {result : UInt8} {body : Bytes} {a b : Station}
    {l : List Action} (h : Reaction (.response id result body) a l b) (hc : id.connects)
    (hn : a.staged = none) (hv : id = .scan → a.connection.scanAnswered.1 ≠ .connect) :
    ¬ (a.connection.status = .connecting ∧ Denies id result body) ∧ a.Spares l b ∨
      (a.connection.status = .connecting ∧ Denies id result body) ∧ ∃ why, a.Fails why l b := by
  cases h with
  | idle hi =>
    rw [hi.1] at hc
    cases hc
  | scanned _ hl =>
    refine .inl ⟨?_, ?_⟩
    · rintro ⟨-, ⟨hi | hi, -⟩ | ⟨hi, -⟩⟩ <;> cases hi
    · exact ⟨Connection.scanAnswered_status _, Connection.scanAnswered_target _,
        Connection.scanAnswered_retriesLeft _, hl⟩
  | scanFailed hs | joined hs | unjoined hs => exact absurd hs (hv rfl)
  | unheeded _ hd => exact .inl ⟨hd, rfl, rfl, rfl, by simp⟩
  | rejected hs hd hf => exact .inr ⟨⟨hs, hd⟩, _, hf⟩
  | flushed hs | unflushed hs =>
    rw [hn] at hs
    cases hs
  | shutDown => cases hc

namespace Step

variable {σ : Type} {m : Step σ}

/-- A step that does nothing to an attempt, and nothing on its behalf. -/
structure Isolated (m : Step σ) : Prop where
  status : m.after.status = m.before.status
  target : m.after.driver.connection.target = m.before.driver.connection.target
  retries : m.after.driver.connection.retriesLeft = m.before.driver.connection.retriesLeft
  unwritten : m.commands = []
  untold : m.connectOutcomes = []

theorem isolated_of_spares (ht : m.trigger ≠ .bus)
    (h : m.before.driver.station.Spares m.actions m.after.driver.station) : m.Isolated := by
  refine ⟨h.status, h.target, h.retries, ?_, ?_⟩
  · rw [commands, if_neg ht, List.filterMap_eq_nil_iff]
    intro x hx
    obtain ⟨r, rfl⟩ := h.only_scan x hx
    rfl
  · rw [connectOutcomes, List.filterMap_eq_nil_iff]
    intro x hx
    obtain ⟨r, rfl⟩ := h.only_scan x hx
    rfl

theorem not_isolated_of_fails {a b : Station} {why : ConnectFailure} (ht : m.trigger ≠ .bus)
    (hf : a.Fails why m.actions b) : ¬ m.Isolated := by
  intro h
  rcases hf.leaves_trace with ⟨e, he⟩ | ⟨x, hx, hs⟩
  · have ho : m.actions.filterMap Action.connectOutcome? = [] := h.untold
    rw [ho] at he
    cases he
  · have hc := h.unwritten
    rw [commands, if_neg ht, List.filterMap_eq_nil_iff] at hc
    rw [Action.isScan, hc x hx] at hs
    cases hs

theorem Effect.isolated_iff (h : m.Effect) {id : CommandId} {result : UInt8} {body : Bytes}
    (hm : m.message = .response id result body) (hc : id.connects)
    (hn : m.before.driver.channel.staged = none)
    (hv : id = .scan → m.before.driver.connection.scanAnswered.1 ≠ .connect) :
    m.Isolated ↔ ¬ (m.before.status = .connecting ∧ Denies id result body) := by
  cases h with
  | bus ht | powered ht | call ht =>
    simp only [message, ht] at hm
    cases hm
  | frame ht hr =>
    have hbus : m.trigger ≠ .bus := by
      rw [ht]
      intro h
      cases h
    rw [hm] at hr
    rcases hr.spares_or_fails hc hn hv with ⟨hd, hs⟩ | ⟨hd, why, hf⟩
    · exact iff_of_true (isolated_of_spares hbus hs) hd
    · exact iff_of_false (not_isolated_of_fails hbus hf) (not_not_intro hd)

end Step

open Session ScriptedChip

/-- Over every run in which the chip answers in order: once a request has replaced an attempt, a
late response of the old one is isolated from the new one unless it is a denial. -/
theorem replaced_attempt_isolated {σ : Type} [Platform σ] {config : Config}
    {firmware : FirmwareSource} {device : σ} {calls : List Call} {a b post : List (Step σ)}
    {conn m : Step σ} {passed rest : CommandQueue} {e : Nat × CommandId} {result : UInt8}
    {body : Bytes}
    (h : steps calls (fresh config firmware device) = (a ++ conn :: b) ++ m :: post)
    (hr : conn.Replaces) (hq : InOrder (a ++ conn :: b) (passed ++ e :: rest))
    (he : e.1 < a.length) (hc : e.2.connects) (hm : m.message = .response e.2 result body) :
    m.Isolated ↔ ¬ (m.before.status = .connecting ∧ Denies e.2 result body) := by
  obtain ⟨hp, hg, hs⟩ := steps_around h
  have hi := Insulated.of_path hp (fresh_sound config firmware device) hr hq
  obtain ⟨hn, hv⟩ := hi.unawaited he
  exact (hg.effect hs).1.isolated_iff hm hc hn hv

theorem replaced_attempt_isolated_late_key :
    ∃ a conn b m post, stepsOf [.connect [65] [112], .serviceInterrupt, .connect [66] [],
        .serviceInterrupt] [response .scan 0 securedNetwork, response .supplicantPmk 0 []] =
        (a ++ conn :: b) ++ m :: post ∧
      conn.Replaces ∧ m.message = .response .supplicantPmk 0 [] ∧ m.before.status = .connecting ∧
      m.Isolated := by
  obtain ⟨a, k, b, m, post, h, hpre, ha, hk, hm⟩ := exists_steps
    (stepsOf [.connect [65] [112], .serviceInterrupt, .connect [66] [], .serviceInterrupt]
      [response .scan 0 securedNetwork, response .supplicantPmk 0 []]) 23 26
    (fun m ↦ (m.trigger, m.outcome, m.before.status)) (fun m ↦ (m.message, m.before.status))
    (x := (.call (.connect [66] []), .ok (), .connecting))
    (y := (.response .supplicantPmk 0 [], .connecting))
    (by decide) (by decide +kernel) (by decide +kernel)
  simp only [Prod.mk.injEq] at hk hm
  have hr : k.Replaces := ⟨⟨_, _, hk.1⟩, hk.2⟩
  have hq : InOrder (a ++ k :: b) ([] ++ (21, .supplicantPmk) :: [(23, .scan)]) := by
    rw [hpre]
    exact InOrder.start.of_queueFrom? (by decide +kernel)
  have hi := (replaced_attempt_isolated h hr hq (by rw [ha]; decide) rfl hm.1).mpr fun hd ↦ by
    rcases hd.2 with ⟨-, h0⟩ | ⟨hc, -⟩
    · exact h0 rfl
    · cases hc
  exact ⟨a, k, b, m, post, h, hr, hm.1, hm.2, hi⟩

/-- The chip refuses the key of the old attempt, and the new one fails. -/
theorem late_refusal_not_isolated :
    ∃ a conn b m post, stepsOf [.connect [65] [112], .serviceInterrupt, .connect [66] [],
        .serviceInterrupt] [response .scan 0 securedNetwork, response .supplicantPmk 1 []] =
        (a ++ conn :: b) ++ m :: post ∧
      conn.Replaces ∧ InOrder (a ++ conn :: b) [(21, .supplicantPmk), (23, .scan)] ∧
      a.length = 23 ∧ m.message = .response .supplicantPmk 1 [] ∧
      m.before.status = .connecting ∧ m.after.status = .notConnected ∧ ¬ m.Isolated := by
  obtain ⟨a, k, b, m, post, h, hpre, ha, hk, hm⟩ := exists_steps
    (stepsOf [.connect [65] [112], .serviceInterrupt, .connect [66] [], .serviceInterrupt]
      [response .scan 0 securedNetwork, response .supplicantPmk 1 []]) 23 26
    (fun m ↦ (m.trigger, m.outcome, m.before.status))
    (fun m ↦ (m.message, m.before.status, m.after.status))
    (x := (.call (.connect [66] []), .ok (), .connecting))
    (y := (.response .supplicantPmk 1 [], .connecting, .notConnected))
    (by decide) (by decide +kernel) (by decide +kernel)
  simp only [Prod.mk.injEq] at hk hm
  have hr : k.Replaces := ⟨⟨_, _, hk.1⟩, hk.2⟩
  have hq : InOrder (a ++ k :: b) [(21, .supplicantPmk), (23, .scan)] := by
    rw [hpre]
    exact InOrder.start.of_queueFrom? (by decide +kernel)
  refine ⟨a, k, b, m, post, h, hr, hq, ha, hm.1, hm.2.1, hm.2.2, fun hi ↦ ?_⟩
  have hs := hi.status
  rw [hm.2.1, hm.2.2] at hs
  cases hs

end SdioWlan
