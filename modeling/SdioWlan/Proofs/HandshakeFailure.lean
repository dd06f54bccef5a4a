import SdioWlan.Proofs.RetryBudget

namespace SdioWlan

open SdioWlan.Action

def responseFault? (id : CommandId) (result : UInt8) (body : Bytes) : Option DriverError :=
  if result ≠ 0 then some (.rejected id.code result)
  else
    match id with
    | .scan =>
      match ScanReport.parse body with
      | .error e => some e
      | .ok _ => none
    | .associate => if Reply.capability? body = none then some .malformedFrame else none
    | _ => none

namespace Session

variable {σ : Type}

def Completes (x : Act σ Unit) : Prop := ∀ s, (x s).1 = .ok ()

namespace Completes

theorem view_bind {β : Type} {f : Driver → β} {x : β → Act σ Unit} (h : ∀ b, Completes (x b)) :
    Completes (view f >>= x) := fun s ↦ h _ s

theorem bind {x : Act σ Unit} {f : Unit → Act σ Unit} (hx : Completes x)
    (hf : Completes (f ())) : Completes (x >>= f) := by
  intro s
  have h := hx s
  rw [bind_apply]
  rcases hr : x s with ⟨o, t⟩
  rw [hr] at h
  cases h
  exact hf t

theorem ite {c : Prop} [Decidable c] {x y : Act σ Unit} (hx : Completes x) (hy : Completes y) :
    Completes (if c then x else y) := by
  split
  · exact hx
  · exact hy

/-- A failure that is dealt with is none. -/
theorem tryCatch {x : Act σ Unit} {f : DriverError → Act σ Unit} (h : ∀ e, Completes (f e)) :
    Completes (tryCatch x f) := by
  intro s
  rw [tryCatch_apply]
  rcases x s with ⟨e | _, t⟩
  · exact h e t
  · rfl

theorem update (f : Driver → Driver) : Completes (update f : Act σ Unit) := fun _ ↦ rfl

theorem report (r : Report) : Completes (report r : Act σ Unit) := fun _ ↦ rfl

theorem pure : Completes (pure () : Act σ Unit) := fun _ ↦ rfl

end Completes

theorem reportNetworks_completes (networks : List Bss) :
    Completes (reportNetworks networks : Act σ Unit) := by
  induction networks with
  | nil => exact .report _
  | cons n rest ih => exact (Completes.report _).bind ih

/-- A failure ends the work after everything else that is done about it. -/
theorem bind_throw_fst {x : Act σ Unit} (h : Completes x) (e : DriverError) (s : Session σ) :
    (((x >>= fun _ ↦ throw e) : Act σ Unit) s).1 = .error e := by
  have hx := h s
  rw [bind_apply]
  rcases hr : x s with ⟨o, t⟩
  rw [hr] at hx
  cases hx
  rfl

variable [Platform σ]

theorem connectFailed_completes (why : ConnectFailure) :
    Completes (connectFailed why : Act σ Unit) := by
  refine (Completes.update _).bind (.view_bind fun next ↦ (Completes.update _).bind ?_)
  cases next.1 with
  | giveUp => exact .report _
  | rescan => exact .tryCatch fun e ↦ .view_bind fun _ ↦ (Completes.update _).bind (.report _)

theorem rejected_completes (why : ConnectFailure) :
    Completes
      (do if (← view (·.connection.status)) = .connecting then connectFailed why : Act σ Unit) :=
  .view_bind fun _ ↦ .ite (connectFailed_completes _) .pure

theorem scanFailed_completes (verdict : Connection.ScanVerdict) (e : DriverError) :
    Completes (scanFailed verdict e : Act σ Unit) := by
  cases verdict with
  | connect => exact connectFailed_completes _
  | plain => exact .report _
  | stale => exact .pure

theorem pickNetwork_completes (networks : List Bss) :
    Completes (pickNetwork networks : Act σ Unit) := by
  refine .view_bind fun ssid ↦ ?_
  cases networks.find? (·.ssid == ssid) with
  | none => exact connectFailed_completes _
  | some b => exact .tryCatch fun e ↦ connectFailed_completes _

theorem onScan_outcome (body : Bytes) (s : Session σ) :
    (onScan body s).1 = match responseFault? .scan 0 body with
      | some e => .error e
      | none => .ok () := by
  simp only [onScan, bind_apply, takeScan_apply, responseFault?, ne_eq, not_true_eq_false, if_false]
  cases ScanReport.parse body with
  | error e => exact bind_throw_fst (scanFailed_completes _ e) e _
  | ok r =>
    cases s.driver.connection.scanAnswered.1 with
    | stale => rfl
    | plain => exact reportNetworks_completes _ _
    | connect => exact pickNetwork_completes _ _

theorem onAssociate_outcome (body : Bytes) (s : Session σ) :
    (onAssociate body s).1 = match responseFault? .associate 0 body with
      | some e => .error e
      | none => .ok () := by
  simp only [onAssociate, bind_apply, liftM_apply, responseFault?, ne_eq, not_true_eq_false,
    if_false]
  cases Reply.capability? body with
  | none => rfl
  | some capability =>
    simp only [required, reduceCtorEq, if_false]
    cases AssocRefusal.ofCapability? capability with
    | none => rfl
    | some reason => exact rejected_completes (.refused reason) s

theorem onKey_completes : Completes (onKey : Act σ Unit) := by
  refine .view_bind fun staged ↦ (Completes.update _).bind ?_
  cases staged with
  | none => exact .pure
  | some c => exact .tryCatch fun e ↦ connectFailed_completes _

theorem commandFailed_completes {id : CommandId} (h : id.connects) (e : DriverError) :
    Completes (commandFailed id e : Act σ Unit) := by
  cases id with
  | scan => exact fun s ↦ scanFailed_completes _ e _
  | supplicantPmk | associate => exact rejected_completes _
  | _ => cases h

/-- How the work on such a response ends depends on nothing but the response. -/
theorem answer_outcome {id : CommandId} (h : id.connects) (result : UInt8) (body : Bytes)
    (s : Session σ) :
    (answer id result body s).1 = match responseFault? id result body with
      | some e => .error e
      | none => .ok () := by
  simp only [answer, bind_apply, update_apply]
  by_cases hr : result = 0
  · subst hr
    simp only [ne_eq, not_true_eq_false, if_false]
    cases id with
    | scan => exact onScan_outcome body _
    | associate => exact onAssociate_outcome body _
    | supplicantPmk => exact onKey_completes _
    | _ => cases h
  · simp only [ne_eq, hr, not_false_eq_true, if_true, responseFault?]
    exact bind_throw_fst (commandFailed_completes h _) _ _

end Session

namespace Station

variable {a b : Station} {l : List Action} {why : ConnectFailure}

/-- The attempt is over and that is reported, or it goes on with a scan that has been paid for. -/
def Heeds (a : Station) (l : List Action) (b : Station) : Prop :=
  (∃ frame, (.scan, frame, .ok ()) ∈ l.filterMap command?) ∧
      b.connection.retriesLeft.toNat + 1 = a.connection.retriesLeft.toNat ∨
    b.connection.status = .notConnected ∧ ∃ why, l.filterMap connectOutcome? = [.error why]

theorem retriesLeft_of_rescan (h : a.connection.attemptFailed.1 = .rescan) :
    a.connection.attemptFailed.2.retriesLeft.toNat + 1 = a.connection.retriesLeft.toNat := by
  have hb := budget_of_rescan h
  simpa [budget, move, Connection.attemptFailed_status, h, Connection.status_of_rescan h] using hb

theorem Fails.heeds (h : a.Fails why l b) : a.Heeds l b := by
  rcases h.connectOutcomes with ⟨ha, hb, hl⟩ | h
  · left
    cases h with
    | gaveUp h => cases hl
    | stranded h hs => cases hl
    | retried h hs =>
      cases hs with
      | @sent c hc base =>
        refine ⟨⟨c.frame, ?_⟩, retriesLeft_of_rescan h⟩
        have hw := Command.command?_written (scan_known hc) base (.ok ())
        simp [hw, hc]
  · exact .inr h

theorem heeds_answered (h : a.answered.Heeds l b) : a.Heeds l b := by
  simpa [Heeds, answered, move] using h

/-- A station that stays in its attempt and writes nothing does not heed a failure. -/
theorem not_heeds (hb : b.connection.status = .connecting) (hl : l.filterMap command? = []) :
    ¬ a.Heeds l b := by
  rintro (⟨⟨frame, hf⟩, -⟩ | ⟨hn, -⟩)
  · rw [hl] at hf
    cases hf
  · rw [hb] at hn
    cases hn

end Station

open Station

/-- An attempt fails with the response that it waits for. It misses the association whose response
lacks the capability, and the scan whose response the driver takes for another one's. -/
theorem Reaction.heeds_iff {id : CommandId} {result : UInt8} {body : Bytes} {a b : Station}
    {l : List Action} (h : Reaction (.response id result body) a l b) (hc : id.connects)
    (hs : a.connection.status = .connecting) (hf : (responseFault? id result body).isSome) :
    a.Heeds l b ↔
      ¬ (id = .associate ∧ result = 0) ∧
        ¬ (id = .scan ∧ a.connection.scanAnswered.1 ≠ .connect) := by
  cases h with
  | idle h => exact absurd hc (by simp [h.1])
  | shutDown => cases hc
  | scanned hv hl =>
    refine iff_of_false (not_heeds ?_ ?_) fun h ↦ h.2 ⟨rfl, hv⟩
    · simpa [answered, move] using hs
    · rw [List.filterMap_eq_nil_iff]
      intro x hx
      obtain ⟨r, rfl⟩ := hl x hx
      rfl
  | scanFailed hv hfail =>
    exact iff_of_true (heeds_answered hfail.heeds) ⟨by simp, fun h ↦ h.2 hv⟩
  | joined _ hp | unjoined _ hp =>
    unfold pickedNetwork at hp
    cases hr : ScanReport.parse body with
    | error e =>
      rw [hr] at hp
      cases hp
    | ok r => simp [responseFault?, hr] at hf
  | unheeded hi hn =>
    have hdeny : ¬ Denies id result body := fun hd ↦ hn ⟨hs, hd⟩
    have h0 : result = 0 := by
      by_contra h0
      exact hdeny (.inl ⟨hi, h0⟩)
    rcases hi with rfl | rfl
    · simp [responseFault?, h0] at hf
    · exact iff_of_false (not_heeds hs rfl) fun h ↦ h.1 ⟨rfl, h0⟩
  | rejected _ hd hfail =>
    refine iff_of_true hfail.heeds ⟨?_, ?_⟩
    · rintro ⟨rfl, rfl⟩
      rcases hd with ⟨-, hn⟩ | ⟨-, -, capability, hcap, -⟩
      · exact hn rfl
      · simp [responseFault?, Option.mem_def.mp hcap] at hf
    · rintro ⟨rfl, -⟩
      rcases hd with ⟨hi | hi, -⟩ | ⟨hi, -⟩ <;> cases hi
  | flushed | unflushed => simp [responseFault?] at hf

theorem responseFault?_scan {result : UInt8} {body : Bytes} :
    (responseFault? .scan result body).isSome ↔
      result ≠ 0 ∨ ∃ e, ScanReport.parse body = .error e := by
  unfold responseFault?
  by_cases hr : result = 0
  · cases hp : ScanReport.parse body <;> simp [hr]
  · simp [hr]

theorem responseFault?_associate {body : Bytes} :
    (responseFault? .associate 0 body).isSome ↔ Reply.capability? body = none := by
  cases h : Reply.capability? body <;> simp [responseFault?, h]

namespace Step

variable {σ : Type} {m : Step σ}

structure Rescans (m : Step σ) : Prop where
  written : ∃ frame, (.scan, frame, .ok ()) ∈ m.commands
  paid : m.after.driver.connection.retriesLeft.toNat + 1 =
    m.before.driver.connection.retriesLeft.toNat

def GivesUp (m : Step σ) : Prop :=
  m.after.status = .notConnected ∧ ∃ why, m.connectOutcomes = [.error why]

theorem heeds_iff (ht : m.trigger ≠ .bus) :
    m.before.driver.station.Heeds m.actions m.after.driver.station ↔ m.Rescans ∨ m.GivesUp := by
  have hr : m.Rescans ↔ (∃ frame, (.scan, frame, .ok ()) ∈ m.actions.filterMap command?) ∧
      m.after.driver.connection.retriesLeft.toNat + 1 =
        m.before.driver.connection.retriesLeft.toNat := by
    rw [← commands_of_trigger ht]
    exact ⟨fun h ↦ ⟨h.written, h.paid⟩, fun h ↦ ⟨h.1, h.2⟩⟩
  rw [hr]
  rfl

theorem Effect.reaction_of_response (h : m.Effect) {id : CommandId} {result : UInt8}
    {body : Bytes} (hm : m.message = .response id result body) :
    m.trigger ≠ .bus ∧ Reaction (.response id result body) m.before.driver.station m.actions
      m.after.driver.station := by
  cases h with
  | bus ht | powered ht | call ht => simp [message, ht] at hm
  | frame ht hr =>
    rw [hm] at hr
    exact ⟨by simp [ht], hr⟩

theorem Genuine.outcome_of_response [Platform σ] (hg : m.Genuine) {id : CommandId}
    {result : UInt8} {body : Bytes} (hm : m.message = .response id result body)
    (hc : id.connects) :
    m.outcome = match responseFault? id result body with
      | some e => .error e
      | none => .ok () := by
  have ho := Session.answer_outcome hc result body m.before
  rwa [hg.answer_of_response hm] at ho

end Step

open Session ScriptedChip

/-- In every run, when the work on a response to a scan, a key or an association fails while an
attempt to connect is under way, the attempt scans again and has paid for it, or it is over and that
is reported, except for two kinds of responses: one to an association that the chip has not rejected
and that lacks the capability, and one to a scan that fails and that the driver takes for a scan of
the caller's or of an attempt that was replaced. -/
theorem handshake_failure_heeded {σ : Type} [Platform σ] {config : Config}
    {firmware : FirmwareSource} {device : σ} {calls : List Call} {pre post : List (Step σ)}
    {m : Step σ} {id : CommandId} {result : UInt8} {body : Bytes}
    (h : steps calls (fresh config firmware device) = pre ++ m :: post)
    (hm : m.message = .response id result body) (hc : id.connects)
    (hs : m.before.status = .connecting) :
    (∀ e, m.outcome = .error e → m.Rescans ∨ m.GivesUp) ↔
      ¬ (id = .associate ∧ result = 0 ∧ Reply.capability? body = none) ∧
        ¬ (id = .scan ∧ m.before.driver.connection.scanAnswered.1 ≠ .connect ∧
          (result ≠ 0 ∨ ∃ e, ScanReport.parse body = .error e)) := by
  obtain ⟨-, hg, hsound⟩ := steps_around h
  have ho := hg.outcome_of_response hm hc
  obtain ⟨ht, hr⟩ := (hg.effect hsound).1.reaction_of_response hm
  cases hf : responseFault? id result body with
  | none =>
    rw [hf] at ho
    refine iff_of_true (fun e he ↦ ?_) ⟨?_, ?_⟩
    · rw [ho] at he
      cases he
    · rintro ⟨rfl, rfl, hcap⟩
      have hn := responseFault?_associate.mpr hcap
      rw [hf] at hn
      cases hn
    · rintro ⟨rfl, -, hfault⟩
      have hn := responseFault?_scan.mpr hfault
      rw [hf] at hn
      cases hn
  | some e =>
    rw [hf] at ho
    have hsome : (responseFault? id result body).isSome := by rw [hf]; rfl
    have hfails : (∀ e, m.outcome = .error e → m.Rescans ∨ m.GivesUp) ↔ m.Rescans ∨ m.GivesUp :=
      ⟨fun h ↦ h e ho, fun h _ _ ↦ h⟩
    rw [hfails, ← m.heeds_iff ht, hr.heeds_iff hc hs hsome]
    refine and_congr (not_congr ⟨?_, fun h ↦ ⟨h.1, h.2.1⟩⟩) (not_congr ⟨?_, fun h ↦ ⟨h.1, h.2.1⟩⟩)
    · rintro ⟨rfl, rfl⟩
      exact ⟨rfl, rfl, responseFault?_associate.mp hsome⟩
    · rintro ⟨rfl, hv⟩
      exact ⟨rfl, hv, responseFault?_scan.mp hsome⟩

/-- The chip refuses a key. -/
theorem handshake_failure_heeded_key :
    ∃ pre m post e, stepsOf [.connect [65] [112], .serviceInterrupt, .serviceInterrupt]
        [response .scan 0 securedNetwork, response .supplicantPmk 1 []] = pre ++ m :: post ∧
      m.message = .response .supplicantPmk 1 [] ∧ m.before.status = .connecting ∧
      m.outcome = .error e ∧ (m.Rescans ∨ m.GivesUp) := by
  obtain ⟨pre, m, post, h, -, hm⟩ := exists_step
    (stepsOf [.connect [65] [112], .serviceInterrupt, .serviceInterrupt]
      [response .scan 0 securedNetwork, response .supplicantPmk 1 []]) 25
    (fun m ↦ (m.message, m.before.status, m.outcome))
    (a := (.response .supplicantPmk 1 [], .connecting, .error (.rejected 0xC4 1)))
    (by decide +kernel)
  simp only [Prod.mk.injEq] at hm
  exact ⟨pre, m, post, _, h, hm.1, hm.2.1, hm.2.2,
    (handshake_failure_heeded h hm.1 rfl hm.2.1).mpr ⟨by simp, by simp⟩ _ hm.2.2⟩

/-- The response to an association ends before the capability, and the attempt goes on waiting. -/
theorem short_association_unheeded :
    ∃ pre m post, stepsOf [.connect [65] [], .serviceInterrupt, .serviceInterrupt]
        [response .scan 0 openNetwork, response .associate 0 []] = pre ++ m :: post ∧
      m.message = .response .associate 0 [] ∧ m.before.status = .connecting ∧
      m.outcome = .error .malformedFrame ∧ m.after.status = .connecting ∧
      ¬ (m.Rescans ∨ m.GivesUp) := by
  obtain ⟨pre, m, post, h, -, hm⟩ := exists_step
    (stepsOf [.connect [65] [], .serviceInterrupt, .serviceInterrupt]
      [response .scan 0 openNetwork, response .associate 0 []]) 25
    (fun m ↦ ((m.message, m.before.status, m.outcome), m.after.status, m.commands.length))
    (a := ((.response .associate 0 [], .connecting, .error .malformedFrame), .connecting, 0))
    (by decide +kernel)
  simp only [Prod.mk.injEq] at hm
  obtain ⟨⟨hm, hb, ho⟩, ha, hc⟩ := hm
  refine ⟨pre, m, post, h, hm, hb, ho, ha, ?_⟩
  rintro (⟨⟨frame, hf⟩, -⟩ | ⟨hn, -⟩)
  · rw [List.length_eq_zero_iff.mp hc] at hf
    cases hf
  · rw [ha] at hn
    cases hn

end SdioWlan
