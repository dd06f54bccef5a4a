import SdioWlan.Proofs.Bootstrap.Order

namespace SdioWlan

namespace Step

variable {σ : Type} {m : Step σ}

/-- The bootstrap goes on from the command `id`: the next one is written, or there is none and the
application hears of success. -/
structure Advances (m : Step σ) (id : CommandId) : Prop where
  done : m.outcome = .ok ()
  stage : m.before.driver.boot.stage.step? = some (id, m.after.driver.boot.stage)
  goesOn : (∃ next, m.after.driver.boot.stage.awaited? = some next ∧
      m.bootCommands = [(next, .ok ())] ∧ m.told = []) ∨
    m.after.driver.boot.stage = .ready ∧ m.bootCommands = [] ∧ ∃ mac, m.told = [.ok mac]

/-- The bootstrap fails, and the application hears once of the error that the work ended with. -/
def EndsBoot (m : Step σ) : Prop :=
  ∃ e, m.outcome = .error e ∧ m.after.driver.boot.stage = .failed ∧ m.told = [.error e]

theorem BootEffect.settled_iff (h : m.BootEffect) {id : CommandId} {result : UInt8} {body : Bytes}
    (hm : m.message = .response id result body)
    (ha : m.before.driver.boot.stage.awaited? = some id) :
    m.Advances id ∨ m.EndsBoot ↔ (result = 0 → Reply.complete id body) := by
  obtain ⟨ht, hr⟩ := h.frame_of_message (by simp [hm])
  obtain ⟨hboots, hready⟩ := BootStage.awaited?_boots ha
  have hcommands := bootCommands_of_trigger ht
  have htold : m.told = m.actions.filterMap Action.initialized? := rfl
  rw [hm] at hr
  generalize hl : m.actions = l at hr hcommands htold
  generalize ho : m.outcome = o at hr
  generalize hb : m.before.driver.boot = b at hr ha hready
  generalize hc : m.after.driver.boot = c at hr
  cases hr with
  | unrelated h => exact absurd hboots (by simp [h.1])
  | shutDown => cases hboots
  | late _ _ h => exact absurd (by simpa [Bootstrap.isReady] using h) hready
  | rejected _ hr =>
    refine iff_of_true (.inr ⟨_, ho, ?_, htold⟩) fun h0 ↦ absurd h0 hr
    simp [hc, Bootstrap.fail, hready]
  | malformed _ h =>
    refine iff_of_false ?_ fun hn ↦ by simp [h] at hn
    have hnothing : m.told = [] := htold
    rintro (⟨hd, -, -⟩ | ⟨e, -, -, he⟩)
    · rw [ho] at hd
      cases hd
    · rw [hnothing] at he
      cases he
  | unawaited _ _ hn => exact absurd ha hn
  | advanced hcomplete hs hn hsend =>
    refine iff_of_true ?_ fun _ ↦ hcomplete
    rcases hsend.written (BootStage.awaited?_boots hn).1 with ⟨rfl, hstage, hw, hi⟩ |
      ⟨e, rfl, hstage, hi⟩
    · rw [hw] at hcommands
      refine .inl ⟨ho, by rw [hb, hc, hstage]; exact hs, .inl ⟨_, ?_, hcommands, htold.trans hi⟩⟩
      rw [hc, hstage]
      exact hn
    · exact .inr ⟨e, ho, by rw [hc, hstage], htold.trans hi⟩
  | completed h hs =>
    refine iff_of_true (.inl ⟨ho, ?_, .inr ⟨by rw [hc], hcommands, _, htold⟩⟩) fun _ ↦ ?_
    · rw [hb, hc, hs]
      rfl
    · simp [Reply.complete, h]

end Step

open Session ScriptedChip

/-- In every run, the response for which a bootstrap waits makes it go on or fail as it should,
except for one that the chip does not reject and that lacks the field for which its command was
sent. -/
theorem awaited_response_settled {σ : Type} [Platform σ] {config : Config}
    {firmware : FirmwareSource} {device : σ} {calls : List Call} {pre post : List (Step σ)}
    {m : Step σ} {id : CommandId} {result : UInt8} {body : Bytes}
    (h : steps calls (fresh config firmware device) = pre ++ m :: post)
    (hm : m.message = .response id result body)
    (ha : m.before.driver.boot.stage.awaited? = some id) :
    m.Advances id ∨ m.EndsBoot ↔ (result = 0 → Reply.complete id body) := by
  obtain ⟨-, hg, hs⟩ := steps_around h
  exact (hg.bootEffect hs).settled_iff hm ha

/-- A hardware specification that reaches just as far as it must. -/
theorem awaited_response_settled_specification :
    ∃ pre m post body, stepsOf [] [] = pre ++ m :: post ∧
      m.message = .response .getHwSpec 0 body ∧ body.length = 45 ∧
      m.before.driver.boot.stage.awaited? = some .getHwSpec ∧
      (m.Advances .getHwSpec ∨ m.EndsBoot) := by
  obtain ⟨pre, m, post, h, -, hm⟩ := exists_step (stepsOf [] []) 12
    (fun m ↦ (m.message, m.before.driver.boot.stage))
    (a := (.response .getHwSpec 0 (List.replicate 43 0 ++ [16, 0]), .awaitHwSpec))
    (by decide +kernel)
  simp only [Prod.mk.injEq] at hm
  have ha : m.before.driver.boot.stage.awaited? = some .getHwSpec := by rw [hm.2]; rfl
  exact ⟨pre, m, post, _, h, hm.1, by decide, ha,
    (awaited_response_settled h hm.1 ha).mpr fun _ ↦ by decide⟩

/-- A chip whose hardware specification is one byte too short. -/
def ScriptedChip.cutShort : List (Step ScriptedChip) :=
  steps [.init, .serviceInterrupt, .serviceInterrupt, .serviceInterrupt]
    (.fresh {} (.image [165, 165]) ⟨[response .funcInit 0 [], response .macControl 0 [],
      response .getHwSpec 0 (List.replicate 44 0)]⟩)

/-- The bootstrap is left waiting, and nobody hears of it. -/
theorem short_specification_unsettled :
    ∃ pre m post body, cutShort = pre ++ m :: post ∧
      m.message = .response .getHwSpec 0 body ∧ body.length = 44 ∧
      m.before.driver.boot.stage.awaited? = some .getHwSpec ∧
      m.outcome = .error .malformedFrame ∧ m.after.driver.boot.stage = .awaitHwSpec ∧
      ¬ (m.Advances .getHwSpec ∨ m.EndsBoot) := by
  obtain ⟨pre, m, post, h, -, hm⟩ := exists_step cutShort 12
    (fun m ↦
      ((m.message, m.before.driver.boot.stage), m.outcome, m.after.driver.boot.stage, m.told))
    (a := ((.response .getHwSpec 0 (List.replicate 44 0), .awaitHwSpec), .error .malformedFrame,
      .awaitHwSpec, []))
    (by decide +kernel)
  simp only [Prod.mk.injEq] at hm
  obtain ⟨⟨hm, hb⟩, ho, ha, ht⟩ := hm
  refine ⟨pre, m, post, _, h, hm, by decide, by rw [hb]; rfl, ho, ha, ?_⟩
  rintro (⟨hd, -, -⟩ | ⟨e, -, -, he⟩)
  · rw [ho] at hd
    cases hd
  · rw [ht] at he
    cases he

end SdioWlan
