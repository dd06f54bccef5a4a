import SdioWlan.Proofs.ScriptedChip
import SdioWlan.Proofs.Station.Sound

namespace SdioWlan

abbrev Session.status {σ : Type} (s : Session σ) : Connection.Status := s.driver.connection.status

def Action.connectOutcome? : Action → Option (Except ConnectFailure Unit)
  | .report (.connected r) => some r
  | _ => none

namespace Step

variable {σ : Type}

def connectOutcomes (m : Step σ) : List (Except ConnectFailure Unit) :=
  m.actions.filterMap Action.connectOutcome?

def EndsAttempt (m : Step σ) : Prop :=
  m.before.status = .connecting ∧ m.after.status ≠ .connecting

/-- The application learns otherwise that there is no attempt any more: from a call that fails, or
because the chip has shut down. -/
def Excused (m : Step σ) : Prop :=
  (∃ ssid passphrase e, m.trigger = .call (.connect ssid passphrase) ∧ m.outcome = .error e) ∨
    ∃ body, m.message = .response .funcShutdown 0 body

/-- The end of an attempt is reported once and as what it is, and nothing else is. -/
structure Accounted (m : Step σ) : Prop where
  told : m.EndsAttempt → ¬ m.Excused →
    m.after.status = .connected ∧ m.connectOutcomes = [.ok ()] ∨
      m.after.status = .notConnected ∧ ∃ why, m.connectOutcomes = [.error why]
  quiet : ¬ (m.EndsAttempt ∧ ¬ m.Excused) → m.connectOutcomes = []

def EndsSilently (m : Step σ) : Prop :=
  m.before.status = .connecting ∧ ∃ body, m.message = .event .deauthenticated body

def StrayRelease (m : Step σ) : Prop :=
  m.before.status ≠ .connecting ∧ ∃ body, m.message = .event .portRelease body

/-- The chip has taken the key, but the association that waited for it cannot be written. -/
def LosesAssociation (m : Step σ) : Prop :=
  ∃ body, m.message = .response .supplicantPmk 0 body ∧
    ∃ c ∈ m.before.driver.channel.staged, ∃ base e, c.written base (.error e) ∈ m.actions

end Step

theorem connectOutcomes_of_calm {l : List Action} (h : ∀ x ∈ l, x.Calm) :
    l.filterMap Action.connectOutcome? = [] := by
  rw [List.filterMap_eq_nil_iff]
  intro x hx
  have hc := h x hx
  cases x with
  | access a => rfl
  | stack c => rfl
  | report r =>
    cases r with
    | connected r => cases hc
    | _ => rfl

theorem connectOutcomes_of_access {l : List Action} (h : ∀ x ∈ l, x.IsAccess) :
    l.filterMap Action.connectOutcome? = [] := by
  rw [List.filterMap_eq_nil_iff]
  intro x hx
  obtain ⟨a, rfl⟩ := h x hx
  rfl

namespace Station

variable {a b : Station} {o : Except DriverError Unit} {l : List Action} {why : ConnectFailure}

theorem Scans.connectOutcomes (h : a.Scans o l b) : l.filterMap Action.connectOutcome? = [] :=
  h.filterMap_eq_nil fun _ _ _ _ ↦ rfl

theorem Joins.connectOutcomes {n : Bss} (h : a.Joins n o l b) :
    l.filterMap Action.connectOutcome? = [] :=
  h.filterMap_eq_nil fun _ _ _ ↦ rfl

/-- An attempt that fails goes on, or its failure is reported once. -/
theorem Fails.connectOutcomes (h : a.Fails why l b) :
    a.connection.status = .connecting ∧ b.connection.status = .connecting ∧
        l.filterMap Action.connectOutcome? = [] ∨
      b.connection.status = .notConnected ∧
        ∃ why, l.filterMap Action.connectOutcome? = [.error why] := by
  cases h with
  | gaveUp h =>
    refine .inr ⟨?_, _, rfl⟩
    simp [move, Connection.attemptFailed_status, h]
  | retried h hs =>
    refine .inl ⟨Connection.status_of_rescan h, ?_, hs.connectOutcomes⟩
    rw [hs.status]
    simp [move, Connection.attemptFailed_status, h]
  | @stranded e l b h hs =>
    refine .inr ⟨rfl, .command e, ?_⟩
    exact congrArg (.error (.command e) :: ·) hs.connectOutcomes

end Station

namespace Step

variable {σ : Type} {m : Step σ}

def Misreports (m : Step σ) : Prop :=
  m.EndsSilently ∨ m.StrayRelease ∨ m.before.status = .connected ∧ m.LosesAssociation

theorem accounted_of_not_ended (h : ¬ m.EndsAttempt) (ho : m.connectOutcomes = []) :
    m.Accounted := ⟨fun he ↦ absurd he h, fun _ ↦ ho⟩

theorem not_endsAttempt_of_same (h : m.after.status = m.before.status) : ¬ m.EndsAttempt :=
  fun he ↦ he.2 (h.trans he.1)

theorem accounted_of_failure {l : List Action} {a b : Station} {why : ConnectFailure}
    (hx : ¬ m.Excused) (hc : m.before.status = .connecting)
    (ho : m.connectOutcomes = l.filterMap Action.connectOutcome?)
    (hb : m.after.driver.station = b) (hf : a.Fails why l b) : m.Accounted := by
  subst hb
  rcases hf.connectOutcomes with ⟨-, hs, hl⟩ | ⟨hs, why, hl⟩
  · exact accounted_of_not_ended (not_endsAttempt_of_same (hs.trans hc.symm)) (ho.trans hl)
  · have hn : m.after.status = .notConnected := hs
    refine ⟨fun _ _ ↦ .inr ⟨hn, why, ho.trans hl⟩, fun h ↦ absurd ⟨⟨hc, ?_⟩, hx⟩ h⟩
    rw [hn]
    simp

theorem not_losesAssociation (h : ∀ body, m.message ≠ .response .supplicantPmk 0 body) :
    ¬ m.LosesAssociation := by
  rintro ⟨body, hb, -⟩
  exact h body hb

theorem not_losesAssociation_of_unstaged (h : m.before.driver.channel.staged = none) :
    ¬ m.LosesAssociation := by
  rintro ⟨-, -, c, hc, -⟩
  rw [h] at hc
  cases hc

theorem not_losesAssociation_of_written {c : Command} {base : UInt32}
    (h : m.actions = [c.written base (.ok ())]) : ¬ m.LosesAssociation := by
  rintro ⟨-, -, c, -, base, e, he⟩
  rw [h] at he
  simp [Command.written] at he

theorem not_misreports (hd : ∀ body, m.message ≠ .event .deauthenticated body)
    (hr : ∀ body, m.message ≠ .event .portRelease body)
    (hk : m.before.status = .connected → ¬ m.LosesAssociation) : ¬ m.Misreports := by
  rintro (⟨-, body, h⟩ | ⟨-, body, h⟩ | ⟨hs, h⟩)
  · exact hd body h
  · exact hr body h
  · exact hk hs h

theorem not_misreports_of_other (h : m.message = .other) : ¬ m.Misreports := by
  exact not_misreports (by simp [h]) (by simp [h]) fun _ ↦ not_losesAssociation (by simp [h])

/-- An attempt may fail on whatever does not end it in another way. -/
theorem accounted_iff_of_failure {l : List Action} {a b : Station} {why : ConnectFailure}
    (hd : ∀ body, m.message ≠ .event .deauthenticated body)
    (hr : ∀ body, m.message ≠ .event .portRelease body) (hx : ¬ m.Excused)
    (hc : m.before.status = .connecting)
    (ho : m.connectOutcomes = l.filterMap Action.connectOutcome?)
    (hb : m.after.driver.station = b) (hf : a.Fails why l b) : m.Accounted ↔ ¬ m.Misreports := by
  apply iff_of_true (accounted_of_failure hx hc ho hb hf)
  exact not_misreports hd hr fun hs ↦ by rw [hc] at hs; cases hs

theorem not_excused_of_frame {f : Bytes} (ht : m.trigger = .frame f)
    (h : ∀ body, m.message ≠ .response .funcShutdown 0 body) : ¬ m.Excused := by
  rintro (⟨ssid, passphrase, e, hc, -⟩ | ⟨body, hb⟩)
  · rw [ht] at hc
    cases hc
  · exact h body hb

theorem accounted_iff_of_call {c : Call} (ht : m.trigger = .call c)
    (h : Deed m.before.driver.boot.isReady c m.outcome m.before.driver.station m.actions
      m.after.driver.station) : m.Accounted ↔ ¬ m.Misreports := by
  have hm : m.message = .other := by simp only [message, ht]
  refine iff_of_true ?_ (not_misreports_of_other hm)
  have hx (ssid passphrase : Bytes) (e : DriverError) (hc : c = .connect ssid passphrase)
      (ho : m.outcome = .error e) : m.Excused := .inl ⟨ssid, passphrase, e, by rw [ht, hc], ho⟩
  have ho (l : List Action) (hl : m.actions = l) (h : l.filterMap Action.connectOutcome? = []) :
      m.connectOutcomes = [] := by rw [connectOutcomes, hl, h]
  have hsame (hs : m.after.driver.station.connection.status =
      m.before.driver.station.connection.status) : ¬ m.EndsAttempt := not_endsAttempt_of_same hs
  have hafter (hs : m.after.driver.station.connection.status = .connecting) : ¬ m.EndsAttempt :=
    fun he ↦ he.2 hs
  generalize m.outcome = o, m.actions = l, m.before.driver.station = a,
    m.after.driver.station = b at h hx ho hsame hafter
  cases h with
  | idle _ hl => exact accounted_of_not_ended (hsame rfl) (ho _ rfl (connectOutcomes_of_calm hl))
  | scanned _ _ hs => exact accounted_of_not_ended (hsame hs.status) (ho _ rfl hs.connectOutcomes)
  | refused => exact accounted_of_not_ended (hsame rfl) (ho _ rfl rfl)
  | connected _ hq hs =>
    refine accounted_of_not_ended (hafter ?_) (ho _ rfl hs.connectOutcomes)
    rw [hs.status]
    simp only [Station.move, (Connection.status_of_request hq).2]
  | aborted _ _ hs =>
    exact ⟨fun _ hn ↦ absurd (hx _ _ _ rfl rfl) hn, fun _ ↦ ho _ rfl hs.connectOutcomes⟩

theorem accounted_iff_of_deauthenticated {body : Bytes}
    (hm : m.message = .event .deauthenticated body) (hx : ¬ m.Excused)
    (hn : m.after.status = .notConnected) (ho : m.connectOutcomes = []) :
    m.Accounted ↔ ¬ m.Misreports := by
  by_cases hc : m.before.status = .connecting
  · refine iff_of_false (fun h ↦ ?_) (not_not_intro (.inl ⟨hc, _, hm⟩))
    rcases h.told ⟨hc, by rw [hn]; simp⟩ hx with ⟨hs, -⟩ | ⟨-, why, hw⟩
    · rw [hn] at hs
      cases hs
    · rw [ho] at hw
      cases hw
  · apply iff_of_true (accounted_of_not_ended (fun he ↦ hc he.1) ho)
    rintro (⟨hs, -⟩ | ⟨-, body, h⟩ | ⟨-, h⟩)
    · exact hc hs
    · rw [hm] at h
      cases h
    · exact not_losesAssociation (by simp [hm]) h

theorem accounted_iff_of_released {body : Bytes} (hm : m.message = .event .portRelease body)
    (hx : ¬ m.Excused) (hn : m.after.status = .connected) (ho : m.connectOutcomes = [.ok ()]) :
    m.Accounted ↔ ¬ m.Misreports := by
  by_cases hc : m.before.status = .connecting
  · have he : m.EndsAttempt := ⟨hc, by rw [hn]; simp⟩
    apply iff_of_true ⟨fun _ _ ↦ .inl ⟨hn, ho⟩, fun h ↦ absurd ⟨he, hx⟩ h⟩
    rintro (⟨-, body, h⟩ | ⟨hs, -⟩ | ⟨-, h⟩)
    · rw [hm] at h
      cases h
    · exact hs hc
    · exact not_losesAssociation (by simp [hm]) h
  · refine iff_of_false (fun h ↦ ?_) (not_not_intro (.inr (.inl ⟨hc, _, hm⟩)))
    have hq := ho.symm.trans (h.quiet fun he ↦ hc he.1.1)
    cases hq

/-- Without an attempt under way the failure of an association is one too many. -/
theorem accounted_iff_of_lost {l : List Action} {a b : Station} {why : ConnectFailure}
    (h : m.LosesAssociation) (hx : ¬ m.Excused) (hs : m.before.status ≠ .notConnected)
    (ha : m.before.status = a.connection.status)
    (ho : m.connectOutcomes = l.filterMap Action.connectOutcome?)
    (hb : m.after.driver.station = b) (hf : a.Fails why l b) : m.Accounted ↔ ¬ m.Misreports := by
  obtain ⟨body, hm, hl⟩ := h
  cases hc : m.before.status with
  | notConnected => exact absurd hc hs
  | connecting => exact accounted_iff_of_failure (by simp [hm]) (by simp [hm]) hx hc ho hb hf
  | connected =>
    refine iff_of_false (fun h ↦ ?_) (not_not_intro (.inr (.inr ⟨hc, body, hm, hl⟩)))
    have hq : m.connectOutcomes = [] := h.quiet fun he ↦ by
      have hs := he.1.1
      rw [hc] at hs
      cases hs
    rcases hf.connectOutcomes with ⟨hs, -⟩ | ⟨-, why, hw⟩
    · rw [← ha, hc] at hs
      cases hs
    · rw [ho, hw] at hq
      cases hq

theorem accounted_iff_of_frame {f : Bytes} (ht : m.trigger = .frame f)
    (h : Reaction m.message m.before.driver.station m.actions m.after.driver.station)
    (hsound : m.before.driver.station.Sound) : m.Accounted ↔ ¬ m.Misreports := by
  have ho : m.connectOutcomes = m.actions.filterMap Action.connectOutcome? := rfl
  have hsame (hs : m.after.driver.station.connection.status =
      m.before.driver.station.connection.status) : ¬ m.EndsAttempt := not_endsAttempt_of_same hs
  have hbefore : m.before.status = m.before.driver.station.connection.status := rfl
  have hafter : m.after.status = m.after.driver.station.connection.status := rfl
  have hstaged : m.before.driver.channel.staged = m.before.driver.station.staged := rfl
  generalize hm : m.message = msg at h
  generalize hl : m.actions = l at h ho
  generalize m.before.driver.station = a at h hsame hbefore hstaged hsound
  generalize hb : m.after.driver.station = b at h hsame hafter
  have hplain (he : ¬ m.EndsAttempt) (hc : l.filterMap Action.connectOutcome? = [])
      (hn : ¬ m.Misreports) : m.Accounted ↔ ¬ m.Misreports :=
    iff_of_true (accounted_of_not_ended he (ho.trans hc)) hn
  have hother (hd : ∀ body, msg ≠ .event .deauthenticated body)
      (hr : ∀ body, msg ≠ .event .portRelease body)
      (hk : ∀ body, msg ≠ .response .supplicantPmk 0 body) : ¬ m.Misreports := by
    subst hm
    exact not_misreports hd hr fun _ ↦ not_losesAssociation hk
  cases h with
  | idle hi hc =>
    refine hplain (hsame rfl) (connectOutcomes_of_calm hc) (hother ?_ ?_ ?_) <;>
      rintro body rfl
    · exact hi.1 rfl
    · exact hi.2 rfl
    · cases hi.1
  | scanned hv hc =>
    have hnone := connectOutcomes_of_calm (Action.calm_of_scanResult hc)
    refine hplain (hsame ?_) hnone (hother (by simp) (by simp) (by simp))
    exact Connection.scanAnswered_status _
  | scanFailed hv hf =>
    have hc : m.before.status = .connecting := hbefore.trans (Connection.status_of_connect hv)
    have hx : ¬ m.Excused := not_excused_of_frame ht (by simp [hm])
    exact accounted_iff_of_failure (by simp [hm]) (by simp [hm]) hx hc ho hb hf
  | joined hv _ hj =>
    refine hplain (hsame ?_) hj.connectOutcomes (hother (by simp) (by simp) (by simp))
    exact hj.status.trans (Connection.scanAnswered_status _)
  | unjoined hv _ hj hf =>
    have hc : m.before.status = .connecting := hbefore.trans (Connection.status_of_connect hv)
    have hx : ¬ m.Excused := not_excused_of_frame ht (by simp [hm])
    refine accounted_iff_of_failure (by simp [hm]) (by simp [hm]) hx hc ?_ hb hf
    rw [ho, List.filterMap_append, hj.connectOutcomes, List.append_nil]
  | unheeded hi _ hs =>
    refine hplain (hsame rfl) rfl (not_misreports (by simp [hm]) (by simp [hm]) fun _ hl ↦ ?_)
    have hnone : m.before.driver.channel.staged = none := by
      obtain ⟨body, hb, -⟩ := hl
      cases hm.symm.trans hb
      exact hstaged.trans (hs rfl rfl)
    exact not_losesAssociation_of_unstaged hnone hl
  | rejected hc he hf =>
    refine accounted_iff_of_failure (by simp [hm]) (by simp [hm]) (not_excused_of_frame ht ?_)
      (hbefore.trans hc) ho hb hf
    intro body hq
    rw [hm] at hq
    cases hq
    rcases he with ⟨-, h0⟩ | ⟨hi, -⟩
    · exact h0 rfl
    · cases hi
  | flushed hc base =>
    have hn : ¬ m.LosesAssociation := not_losesAssociation_of_written hl
    exact hplain (hsame rfl) rfl (not_misreports (by simp [hm]) (by simp [hm]) fun _ ↦ hn)
  | @unflushed body a b c l hc base e hf =>
    have hlost : m.LosesAssociation := ⟨body, hm, c, hstaged.trans hc, base, e, by rw [hl]; simp⟩
    have hx : ¬ m.Excused := not_excused_of_frame ht (by simp [hm])
    refine accounted_iff_of_lost (a := a.forget) hlost hx ?_ hbefore ?_ hb hf
    · rw [hbefore]
      exact hsound.heeded (by rw [hc]; rfl)
    · rw [ho, List.filterMap_append]
      exact List.append_nil _
  | shutDown hc =>
    have hx : m.Excused := .inr ⟨_, hm⟩
    refine iff_of_true ⟨fun _ hn ↦ absurd hx hn, fun _ ↦ ?_⟩ (hother (by simp) (by simp) (by simp))
    exact ho.trans (connectOutcomes_of_calm hc)
  | deauthenticated =>
    exact accounted_iff_of_deauthenticated hm (not_excused_of_frame ht (by simp [hm])) hafter ho
  | released =>
    exact accounted_iff_of_released hm (not_excused_of_frame ht (by simp [hm])) hafter ho

theorem Effect.accounted_iff (h : m.Effect) (hs : m.before.driver.station.Sound) :
    m.Accounted ↔ ¬ m.Misreports := by
  cases h with
  | bus ht hb hl =>
    refine iff_of_true (accounted_of_not_ended ?_ ?_) (not_misreports_of_other ?_)
    · exact not_endsAttempt_of_same (congrArg (·.connection.status) hb)
    · exact connectOutcomes_of_access hl
    · simp only [message, ht]
  | powered ht hb hl =>
    refine iff_of_true (accounted_of_not_ended ?_ ?_) (not_misreports_of_other ?_)
    · exact not_endsAttempt_of_same (congrArg (·.connection.status) hb)
    · exact connectOutcomes_of_calm hl
    · simp only [message, ht]
  | call ht hd => exact accounted_iff_of_call ht hd
  | frame ht hr => exact accounted_iff_of_frame ht hr hs

end Step

open Session ScriptedChip

/-- Over every run, exactly the steps that break the rule in one of three ways do not account for
the attempts that they end. -/
theorem attempt_outcomes {σ : Type} [Platform σ] {config : Config} {firmware : FirmwareSource}
    {device : σ} {calls : List Call} {pre post : List (Step σ)} {m : Step σ}
    (h : steps calls (fresh config firmware device) = pre ++ m :: post) :
    m.Accounted ↔ ¬ m.Misreports := by
  obtain ⟨-, hg, hs⟩ := steps_around h
  exact (hg.effect hs).1.accounted_iff hs

theorem attempt_outcomes_released :
    ∃ pre m post, stepsOf [.connect [65] [], .serviceInterrupt] [event .portRelease] =
        pre ++ m :: post ∧ m.before.status = .connecting ∧ m.after.status = .connected ∧
      m.connectOutcomes = [.ok ()] ∧ (m.Accounted ↔ ¬ m.Misreports) := by
  obtain ⟨pre, m, post, h, -, hm⟩ := exists_step
    (stepsOf [.connect [65] [], .serviceInterrupt] [event .portRelease]) 21
    (fun m ↦ (m.before.status, m.after.status, m.connectOutcomes))
    (a := (.connecting, .connected, [.ok ()])) (by decide +kernel)
  simp only [Prod.mk.injEq] at hm
  exact ⟨pre, m, post, h, hm.1, hm.2.1, hm.2.2, attempt_outcomes h⟩

/-- A release that nobody waits for is reported as a connection that was made. -/
theorem stray_release_reported :
    ∃ pre m post, stepsOf [.serviceInterrupt] [event .portRelease] = pre ++ m :: post ∧
      ¬ m.Accounted := by
  obtain ⟨pre, m, post, h, -, hm⟩ := exists_step (stepsOf [.serviceInterrupt] [event .portRelease])
    20 (fun m ↦ (m.before.status, m.connectOutcomes)) (a := (.notConnected, [.ok ()]))
    (by decide +kernel)
  simp only [Prod.mk.injEq] at hm
  refine ⟨pre, m, post, h, fun ha ↦ ?_⟩
  have ho : m.connectOutcomes = [] := ha.quiet fun he ↦ by
    have hs := he.1.1
    rw [hm.1] at hs
    cases hs
  rw [hm.2] at ho
  cases ho

end SdioWlan
