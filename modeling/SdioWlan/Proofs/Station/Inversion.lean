import SdioWlan.Proofs.Station.Sending

namespace SdioWlan

namespace Session

variable {σ α : Type}

abbrev Leaves (R : List Action → Station → Prop) (s : Session σ)
    (r : Except DriverError α × Session σ) : Prop := Does (fun _ ↦ R) s r

theorem Leaves.mono {R R' : List Action → Station → Prop} (h : ∀ l b, R l b → R' l b)
    {s : Session σ} {r : Except DriverError α × Session σ} (hr : Leaves R s r) :
    Leaves R' s r := by
  obtain ⟨l, hl, hp⟩ := hr
  exact ⟨l, h _ _ hl, hp⟩

theorem Leaves.congr {R : List Action → Station → Prop} {s u : Session σ}
    {r : Except DriverError α × Session σ} {r' : Except DriverError Unit × Session σ}
    (hs : u.link.past = s.link.past) (hr : r'.2 = r.2) (h : Leaves R u r) : Leaves R s r' := by
  obtain ⟨l, hl, hp⟩ := h
  exact ⟨l, by rw [hr]; exact hl, by rw [hr, hp, hs]⟩

def answered (s : Session σ) : Session σ :=
  { s with driver := { s.driver with connection := s.driver.connection.scanAnswered.2 } }

theorem takeScan_apply (s : Session σ) :
    takeScan s = (.ok s.driver.connection.scanAnswered.1, s.answered) := rfl

def hears (s : Session σ) (results : List (Option ScanResult)) : Session σ :=
  { s with link := { s.link with
      past := (results.map fun r ↦ Action.report (.scanResult r)).reverse ++ s.link.past } }

theorem hears_hears (s : Session σ) (xs ys : List (Option ScanResult)) :
    (s.hears xs).hears ys = s.hears (xs ++ ys) := by
  simp only [hears, List.map_append, List.reverse_append, List.append_assoc]

theorem reportNetworks_apply (networks : List Bss) (s : Session σ) :
    reportNetworks networks s =
      (.ok (), s.hears (networks.map (fun b ↦ some (resultOf b)) ++ [none])) := by
  induction networks generalizing s with
  | nil => rfl
  | cons n rest ih =>
    show reportNetworks rest (s.hears [some (resultOf n)]) = _
    rw [ih, hears_hears]
    rfl

theorem reportNetworks_leaves (networks : List Bss) (s : Session σ) :
    Leaves (fun l b ↦ b = s.driver.station ∧ ∀ x ∈ l, ∃ r, x = .report (.scanResult r)) s
      (reportNetworks networks s) := by
  rw [reportNetworks_apply]
  refine ⟨_, ⟨rfl, fun x hx ↦ ?_⟩, rfl⟩
  obtain ⟨r, -, rfl⟩ := List.mem_map.mp (List.mem_reverse.mp hx)
  exact ⟨r, rfl⟩

theorem onShutdown_reacts (s : Session σ) (body : Bytes) :
    Leaves (Reaction (.response .funcShutdown 0 body) s.driver.station) s (onShutdown s) :=
  ⟨[.report (.initialized (.error .invalidState))], .shutDown (by simp; rfl), rfl⟩

variable [Platform σ] {s : Session σ}

theorem scanFailed_leaves (h : s.driver.station.held = false) (verdict : Connection.ScanVerdict)
    (e : DriverError) :
    Leaves (fun l b ↦
      if verdict = .connect then ∃ why, s.driver.station.Fails why l b
      else b = s.driver.station ∧ ∀ x ∈ l, ∃ r, x = .report (.scanResult r)) s
      (scanFailed verdict e s) := by
  cases verdict with
  | connect => exact Leaves.mono (fun _ _ hf ↦ ⟨_, hf⟩) (connectFailed_fails h (.command e))
  | plain => exact ⟨[_], ⟨rfl, by simp⟩, rfl⟩
  | stale => exact ⟨[], ⟨rfl, by simp⟩, rfl⟩

theorem pickNetwork_reacts (h : s.driver.station.held = false)
    (hv : s.driver.connection.scanAnswered.1 = .connect) {body : Bytes} {r : ScanReport}
    (hr : ScanReport.parse body = .ok r) :
    Leaves (Reaction (.response .scan 0 body) s.driver.station) s
      (pickNetwork r.networks s.answered) := by
  have ha : s.answered.driver.station.held = false := h
  have ht : s.answered.driver.connection.target = s.driver.connection.target := by
    simp only [answered, Connection.scanAnswered]
    split <;> rfl
  have hp : pickedNetwork body s.driver.connection.target.ssid =
      .ok (r.networks.find? (·.ssid == s.driver.connection.target.ssid)) := by
    rw [pickedNetwork, hr]
    rfl
  simp only [pickNetwork, bind_apply, view_apply, ht]
  cases hf : r.networks.find? (·.ssid == s.driver.connection.target.ssid) with
  | none =>
    obtain ⟨l, hl, hl'⟩ := connectFailed_fails ha .notFound
    exact ⟨l, .scanFailed hv hl, hl'⟩
  | some network =>
    rw [hf] at hp
    simp only [tryCatch_apply]
    obtain ⟨l, hj, hl⟩ := associate_joins ha network
    rcases hs : associate network s.answered with ⟨e | _, t⟩
    · rw [hs] at hj hl
      have hb : t.driver.station.held = false := by
        generalize t.driver.station = b at hj
        cases hj <;> exact h
      obtain ⟨k, hf, hk⟩ := connectFailed_fails hb (.command e)
      refine ⟨k ++ l, .unjoined hv hp hj hf, ?_⟩
      rw [List.append_assoc]
      exact hk.trans (congrArg (k ++ ·) hl)
    · rw [hs] at hj hl
      exact ⟨l, .joined hv hp hj, hl⟩

theorem onScan_reacts (h : s.driver.station.held = false) (body : Bytes) :
    Leaves (Reaction (.response .scan 0 body) s.driver.station) s (onScan body s) := by
  have ha : s.answered.driver.station.held = false := h
  simp only [onScan, bind_apply, takeScan_apply]
  cases hp : ScanReport.parse body with
  | error e =>
    refine .congr rfl (bind_throw_snd _ e _) ((scanFailed_leaves ha _ e).mono fun l b hl ↦ ?_)
    split at hl
    · rename_i hv
      obtain ⟨why, hf⟩ := hl
      exact .scanFailed hv hf
    · rename_i hv
      obtain ⟨rfl, hl⟩ := hl
      exact .scanned hv hl
  | ok r =>
    cases hv : s.driver.connection.scanAnswered.1 with
    | stale => exact ⟨[], .scanned (by rw [Driver.station, hv]; simp) (by simp), rfl⟩
    | plain =>
      obtain ⟨l, ⟨hb, hl⟩, hl'⟩ := reportNetworks_leaves r.networks s.answered
      refine ⟨l, ?_, hl'⟩
      rw [hb]
      exact .scanned (by rw [Driver.station, hv]; simp) hl
    | connect => exact pickNetwork_reacts h hv hp

theorem rejected_reacts (h : s.driver.station.held = false) {id : CommandId} {result : UInt8}
    {body : Bytes} (he : Denies id result body) (why : ConnectFailure) :
    Leaves (Reaction (.response id result body) s.driver.station) s
      ((do if (← view (·.connection.status)) = .connecting then connectFailed why :
        Act σ Unit) s) := by
  have hi : id = .supplicantPmk ∨ id = .associate := by
    rcases he with ⟨hi, -⟩ | ⟨hi, -⟩
    · exact hi
    · exact .inr hi
  simp only [bind_apply, view_apply]
  by_cases hc : s.driver.connection.status = .connecting
  · simp only [hc, if_true]
    obtain ⟨l, hf, hl⟩ := connectFailed_fails h why
    exact ⟨l, .rejected hc he hf, hl⟩
  · simp only [hc, if_false]
    refine ⟨[], .unheeded hi (fun hs ↦ hc hs.1) fun hk hr ↦ ?_, rfl⟩
    rcases he with ⟨-, hn⟩ | ⟨ha, -⟩
    · exact absurd hr hn
    · rw [hk] at ha
      cases ha

theorem onAssociate_reacts (h : s.driver.station.held = false) (body : Bytes) :
    Leaves (Reaction (.response .associate 0 body) s.driver.station) s (onAssociate body s) := by
  have hu (he : ¬ Denies .associate 0 body) :
      Reaction (.response .associate 0 body) s.driver.station [] s.driver.station :=
    .unheeded (.inr rfl) (fun hs ↦ he hs.2) (by simp)
  simp only [onAssociate, bind_apply, liftM_apply]
  cases hc : Reply.capability? body with
  | none => exact ⟨[], hu (by simp [Denies, hc]), rfl⟩
  | some capability =>
    simp only [required]
    cases hr : AssocRefusal.ofCapability? capability with
    | none => exact ⟨[], hu (by simp [Denies, hc, hr]), rfl⟩
    | some reason =>
      have he : Denies .associate 0 body :=
        .inr ⟨rfl, rfl, capability, hc, by rw [hr]; rfl⟩
      exact rejected_reacts h he (.refused reason)

theorem onKey_reacts (h : s.driver.station.Sound) (body : Bytes) :
    Leaves (Reaction (.response .supplicantPmk 0 body) s.driver.station) s (onKey s) := by
  simp only [onKey, bind_apply, view_apply, update_apply]
  cases hs : s.driver.channel.staged with
  | none =>
    refine ⟨[], ?_, rfl⟩
    have hk : (s.driver.clearStaged).station = s.driver.station := by
      simp only [Driver.clearStaged, CommandChannel.clearStaged, Driver.station, hs]
    simp only [pure_apply, hk]
    exact .unheeded (.inl rfl) (by simp [Denies]) fun _ _ ↦ hs
  | some c =>
    have hi : c.id ≠ .scan := by
      rw [h.associates c hs]
      simp
    have hf : (⟨s.driver.clearStaged, s.link⟩ : Session σ).driver.station.held = false := h.free
    simp only [tryCatch_apply]
    obtain ⟨l, ⟨w, base, ho, rfl, hb⟩, hl⟩ := sendCommand_does hf hi
    rcases hr : sendCommand c ⟨s.driver.clearStaged, s.link⟩ with ⟨e | _, t⟩
    · rw [hr] at ho hb hl
      have ht : t.driver.station.held = false := by rw [hb]; exact hf
      cases w with
      | ok _ => cases ho
      | error e' =>
        cases ho
        obtain ⟨k, hf, hk⟩ := connectFailed_fails ht (.command (.transfer e'))
        rw [hb] at hf
        refine ⟨k ++ [c.written base (.error e')], .unflushed hs base e' hf, ?_⟩
        rw [List.append_assoc]
        exact hk.trans (congrArg (k ++ ·) hl)
    · rw [hr] at ho hb hl
      cases w with
      | error _ => cases ho
      | ok _ =>
        refine ⟨_, ?_, hl⟩
        simp only [hb]
        exact .flushed hs base

theorem answer_quiet {id : CommandId} {result : UInt8} {body : Bytes}
    (h : (Message.response id result body).Idle) :
    Guarantees Quiet (answer id result body : Act σ Unit) := by
  refine .bind (update_quiet fun _ ↦ rfl) fun _ ↦ .ite (fun _ ↦ ?_) fun hr ↦ ?_
  · exact (commandFailed_quiet h.1 _).bind fun _ ↦ .throw _
  · exact commandDone_quiet h.1 (fun hs ↦ h.2 ⟨hs, of_not_not hr⟩) body

theorem answer_reacts (h : s.driver.station.Sound) (id : CommandId) (result : UInt8)
    (body : Bytes) :
    Leaves (Reaction (.response id result body) s.driver.station) s (answer id result body s) := by
  by_cases hq : (Message.response id result body).Idle
  · obtain ⟨l, ⟨hb, hl⟩, hp⟩ := Quiet.does (answer_quiet hq s)
    refine ⟨l, ?_, hp⟩
    rw [hb]
    exact .idle hq hl
  let u : Session σ :=
    { s with driver := { s.driver with channel := (s.driver.channel.respond id).2 } }
  have hf : u.driver.station.held = false := h.free
  simp only [answer, bind_apply, update_apply]
  by_cases hr : result = 0
  · subst hr
    simp only [ne_eq, not_true_eq_false, if_false]
    cases id with
    | scan => exact onScan_reacts (s := u) hf body
    | associate => exact onAssociate_reacts (s := u) hf body
    | supplicantPmk => exact onKey_reacts (s := u) h body
    | funcShutdown => exact onShutdown_reacts u body
    | _ => exact absurd ⟨rfl, by simp⟩ hq
  · simp only [ne_eq, hr, not_false_eq_true, if_true]
    refine .congr (u := u) rfl (bind_throw_snd _ _ _) ?_
    cases id with
    | scan =>
      simp only [commandFailed, bind_apply, takeScan_apply]
      apply (scanFailed_leaves (s := u.answered) hf _ _).mono
      intro l b hl
      split at hl
      · rename_i hv
        obtain ⟨why, hf⟩ := hl
        exact .scanFailed hv hf
      · rename_i hv
        obtain ⟨rfl, hl⟩ := hl
        exact .scanned hv hl
    | associate => exact rejected_reacts (s := u) hf (.inl ⟨.inr rfl, hr⟩) _
    | supplicantPmk => exact rejected_reacts (s := u) hf (.inl ⟨.inl rfl, hr⟩) _
    | _ => exact absurd ⟨rfl, by simp [hr]⟩ hq

theorem receive_reacts (h : s.driver.station.Sound) (f : Bytes) :
    Leaves (Reaction (.ofFrame f) s.driver.station) s (receive f s) := by
  cases hm : Message.ofFrame f with
  | response id result body =>
    rw [receive_response hm]
    exact answer_reacts h id result body
  | event id body =>
    rw [receive_event hm]
    by_cases hd : id = .deauthenticated
    · subst hd
      exact ⟨_, .deauthenticated, rfl⟩
    by_cases hp : id = .portRelease
    · subst hp
      exact ⟨_, .released, rfl⟩
    obtain ⟨l, ⟨hb, hl⟩, hp'⟩ := Quiet.does (apart_aside.onEventOf hd hp body s).left
    refine ⟨l, ?_, hp'⟩
    rw [hb]
    exact .idle ⟨hd, hp⟩ hl
  | other =>
    obtain ⟨l, ⟨hb, hl⟩, hp⟩ := Quiet.does (apart_aside.receive hm s).left
    refine ⟨l, ?_, hp⟩
    rw [hb]
    exact .idle trivial hl

theorem startScan_does (h : s.driver.station.held = false) {c : Call} {ready : Bool}
    (hc : ∀ ssid passphrase, c ≠ .connect ssid passphrase) (params : Except DriverError Tlv.Block) :
    Does (fun o l b ↦ Deed ready c o s.driver.station l b) s (startScan params s) := by
  have hi (o : Except DriverError Unit) : Deed ready c o s.driver.station [] s.driver.station :=
    .idle hc (by simp)
  simp only [startScan, ensureReady, bind_apply, view_apply]
  cases s.driver.boot.isReady with
  | false => exact ⟨[], hi _, rfl⟩
  | true =>
    simp only [if_true, pure_apply]
    by_cases hs : s.driver.connection.status = .connecting
    · simp only [hs, if_true]
      exact ⟨[], hi _, rfl⟩
    · simp only [hs, if_false, bind_apply, liftM_apply]
      cases params with
      | error e => exact ⟨[], hi _, rfl⟩
      | ok block =>
        obtain ⟨l, hl, hp⟩ := issue_scans h .get block.bytes
        exact ⟨l, .scanned hc hs hl, hp⟩

theorem connect_does (h : s.driver.station.held = false) (ssid passphrase : Bytes) :
    Does (fun o l b ↦
      Deed s.driver.boot.isReady (.connect ssid passphrase) o s.driver.station l b) s
      (connect ssid passphrase s) := by
  simp only [connect, ensureReady, bind_apply, view_apply]
  cases hr : s.driver.boot.isReady with
  | false => exact ⟨[], .refused (.inl rfl), rfl⟩
  | true =>
    simp only [if_true, pure_apply, liftM_apply]
    cases hq : s.driver.connection.request ssid passphrase with
    | error e => exact ⟨[], .refused (.inr ⟨e, hq⟩), rfl⟩
    | ok r =>
      simp only [setConnection, update_apply, tryCatch_apply]
      generalize hu : ({ s with driver := ({ s.driver with connection := r }).clearStaged } :
        Session σ) = u
      have hb : u.driver.station = s.driver.station.forget.move r := by
        rw [← hu]
        rfl
      have hp : u.link.past = s.link.past := by rw [← hu]
      obtain ⟨l, hs, hl⟩ := sendConnectScan_scans (s := u) (by rw [hb]; exact h)
      rw [hb] at hs
      rw [hp] at hl
      rcases ho : sendConnectScan u with ⟨e | _, t⟩
      · rw [ho] at hs hl
        exact ⟨l, .aborted rfl hq hs, hl⟩
      · rw [ho] at hs hl
        exact ⟨l, .connected rfl hq hs, hl⟩

theorem perform_does (h : s.driver.station.held = false) {c : Call} (hi : c ≠ .init)
    (hv : c ≠ .serviceInterrupt) :
    Does (fun o l b ↦ Deed s.driver.boot.isReady c o s.driver.station l b) s (perform c s) := by
  by_cases hc : ∃ ssid passphrase, c = .connect ssid passphrase
  · obtain ⟨ssid, passphrase, rfl⟩ := hc
    exact connect_does h ssid passphrase
  have hc' (ssid passphrase : Bytes) : c ≠ .connect ssid passphrase :=
    fun he ↦ hc ⟨ssid, passphrase, he⟩
  by_cases hs : ∃ channels maxTime, c = .scan channels maxTime
  · obtain ⟨channels, maxTime, rfl⟩ := hs
    exact startScan_does h hc' _
  by_cases hn : ∃ ssid maxTime, c = .scanSsid ssid maxTime
  · obtain ⟨ssid, maxTime, rfl⟩ := hn
    exact startScan_does h hc' _
  have hq : Guarantees Apart (perform c : Act σ Unit) :=
    apart_aside.perform hc' (fun channels maxTime he ↦ hs ⟨channels, maxTime, he⟩)
      (fun ssid maxTime he ↦ hn ⟨ssid, maxTime, he⟩) hi hv
  obtain ⟨l, ⟨hb, hl⟩, hp⟩ := Quiet.does (hq s).left
  refine ⟨l, ?_, hp⟩
  rw [hb]
  exact .idle hc' hl

theorem afterPowerUp_quiet (base : Except DriverError UInt32) :
    Guarantees Quiet (afterPowerUp base : Act σ Unit) := by
  cases base with
  | error e => exact (failBoot_quiet e).bind fun _ ↦ .throw e
  | ok base =>
    intro s
    simp only [afterPowerUp, bind_apply, update_apply]
    have hu : Quiet s { s with driver := { s.driver with base, boot := .start } } :=
      ⟨rfl, refl_of (Logs _) _⟩
    refine trans_of Quiet hu (pumpBootstrap_quiet ?_)
    intro id hid
    cases hid
    rfl

end Session

open Session

variable {σ : Type}

theorem Step.does {m : Step σ} {r : Except DriverError Unit × Session σ}
    (hr : r = (m.outcome, m.after)) {R : Except DriverError Unit → List Action → Station → Prop}
    (h : Does R m.before r) :
    m.after.link.past = m.actions ++ m.before.link.past ∧
      R m.outcome m.actions m.after.driver.station := by
  subst hr
  obtain ⟨l, hl, hp⟩ := h
  rw [Step.actions_eq hp]
  exact ⟨hp, hl⟩

variable [Platform σ]

/-- Every step has one of the effects, and adds its actions to what was done before. -/
theorem Step.Genuine.effect {m : Step σ} (hg : m.Genuine) (h : m.before.driver.station.Sound) :
    m.Effect ∧ m.after.link.past = m.actions ++ m.before.link.past := by
  unfold Step.Genuine at hg
  split at hg
  · rename_i ht
    obtain ⟨hk, l, hl, hl'⟩ := hg
    have hs : m.after.driver.station = m.before.driver.station := by
      have he := congrArg Driver.station hk
      exact he
    rw [Step.actions_eq hl]
    exact ⟨.bus ht hs (by rwa [Step.actions_eq hl]), hl⟩
  · rename_i base ht
    obtain ⟨hp, hs, hl⟩ := Step.does hg (Quiet.does (afterPowerUp_quiet base m.before))
    exact ⟨.powered ht hs hl, hp⟩
  · rename_i c ht
    obtain ⟨hi, hv, hg⟩ := hg
    obtain ⟨hp, hd⟩ := Step.does hg (perform_does h.free hi hv)
    exact ⟨.call ht hd, hp⟩
  · rename_i f ht
    obtain ⟨hp, hr⟩ := Step.does hg (receive_reacts h f)
    refine ⟨.frame ht ?_, hp⟩
    simpa only [Step.message, ht] using hr

end SdioWlan
