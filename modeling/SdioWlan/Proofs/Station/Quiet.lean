import SdioWlan.Proofs.Apart

namespace SdioWlan

namespace Session

variable {σ : Type}

theorem report_quiet {r : Report} (h : (Action.report r).Calm) :
    Guarantees Quiet (report r : Act σ Unit) := Footprint.record h

theorem stack_quiet {c : StackCall} (h : (Action.stack c).Calm) :
    Guarantees Quiet (stack c : Act σ Unit) := Footprint.record h

theorem update_quiet {g : Driver → Driver} (h : ∀ d, (g d).station = d.station) :
    Guarantees Quiet (update g : Act σ Unit) := Footprint.update h

theorem failBoot_quiet (e : DriverError) : Guarantees Quiet (failBoot e : Act σ Unit) :=
  .bind (update_quiet fun _ ↦ rfl) fun _ ↦ report_quiet rfl

theorem learn_quiet (id : CommandId) (body : Bytes) :
    Guarantees Quiet (learn id body : Act σ Unit) := by
  unfold learn
  split
  · exact .bind (.lift _) fun _ ↦ update_quiet fun _ ↦ rfl
  · exact .bind (.lift _) fun _ ↦ update_quiet fun _ ↦ rfl
  · exact .pure _

variable [Platform σ]

theorem pumpBootstrap_quiet {s : Session σ}
    (h : ∀ id ∈ s.driver.boot.next, id.connects = false) : Quiet s (pumpBootstrap s).2 := by
  have hu (t : Session σ) :
      Quiet t { t with driver := { t.driver with boot := t.driver.boot.take.2 } } :=
    ⟨rfl, refl_of (Logs _) _⟩
  simp only [pumpBootstrap, bind_apply, view_apply, update_apply]
  cases hn : s.driver.boot.next with
  | none =>
    simp only [Bootstrap.take, hn, pure_apply]
    simpa only [Bootstrap.take, hn] using hu s
  | some id =>
    have hi := issue_quiet (σ := σ) (h id hn) .get []
    have hp := hi.tryCatch fun e ↦ .bind (failBoot_quiet e) fun _ ↦ .throw e
    simpa only [Bootstrap.take, hn] using trans_of Quiet (hu s) (hp _)

end Session

theorem BootStage.awaited?_connects {stage : BootStage} {id : CommandId}
    (h : stage.awaited? = some id) : id.connects = false := by
  cases stage <;> cases h <;> rfl

theorem Bootstrap.advance_next {b : Bootstrap} {id c : CommandId} (h : (b.advance id).1 = .next c) :
    (b.advance id).2.next = some c ∧ c.connects = false := by
  unfold advance at h ⊢
  split at h
  · cases h
  split at h
  · split at h
    · rename_i stage _ _ c' hc
      cases h
      simp_all [BootStage.awaited?_connects hc]
    · cases h
  · cases h

namespace Session

variable {σ : Type} [Platform σ]

theorem onBoot_quiet (id : CommandId) (body : Bytes) :
    Guarantees Quiet (onBoot id body : Act σ Unit) := by
  refine (learn_quiet id body).bind fun _ s ↦ ?_
  simp only [bind_apply, view_apply, update_apply]
  have hu : Quiet s { s with driver := { s.driver with boot := (s.driver.boot.advance id).2 } } :=
    ⟨rfl, refl_of (Logs _) _⟩
  refine trans_of Quiet hu ?_
  cases ha : (s.driver.boot.advance id).1 with
  | next c =>
    obtain ⟨hn, hc⟩ := Bootstrap.advance_next ha
    refine pumpBootstrap_quiet fun x hx ↦ ?_
    rw [hn] at hx
    cases hx
    exact hc
  | done =>
    have hd : Guarantees Quiet (do
        let mac ← view (·.mac)
        stack (.interfaceUp mac)
        report (.initialized (.ok mac)) : Act σ Unit) :=
      .bind (Footprint.view _) fun _ ↦ .bind (stack_quiet rfl) fun _ ↦ report_quiet rfl
    exact hd _
  | notMine => exact refl_of Quiet _

theorem commandFailed_quiet {id : CommandId} (h : id.connects = false) (e : DriverError) :
    Guarantees Quiet (commandFailed id e : Act σ Unit) := by
  cases hb : id.boots with
  | false => exact fun s ↦ (apart_aside.commandFailed h hb e s).left
  | true =>
    rw [commandFailed_of_boots hb]
    exact .bind (Footprint.view _) fun _ ↦ .ite (fun _ ↦ .pure _) fun _ ↦ failBoot_quiet e

theorem commandDone_quiet {id : CommandId} (h : id.connects = false) (hs : id ≠ .funcShutdown)
    (body : Bytes) : Guarantees Quiet (commandDone id body : Act σ Unit) := by
  cases hb : id.boots with
  | false => exact fun s ↦ (apart_aside.commandDone h hb hs body s).left
  | true =>
    rw [commandDone_of_boots hb]
    exact onBoot_quiet id body

end Session

end SdioWlan
