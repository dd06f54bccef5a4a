import SdioWlan.Proofs.AssociationFrame
import SdioWlan.Proofs.Networks
import SdioWlan.Proofs.Reading.Intact
import SdioWlan.Proofs.ScriptedChip
import SdioWlan.Proofs.Station.Target

namespace SdioWlan

open Connection (Target)

theorem Driver.sent_staged (d : Driver) (c : Command) (o : Except Errno Unit) :
    (d.sent c o).channel.staged = d.channel.staged := by
  unfold sent
  split <;> cases o <;> rfl

namespace Session

variable {σ : Type} {s u : Session σ} {b : Bss} {c k : Command}

/-- The state in which the answer to a scan finds the attempt that it belongs to. -/
def picking (s : Session σ) : Session σ :=
  ({ s with driver := { s.driver with channel := (s.driver.channel.respond .scan).2 } } :
    Session σ).answered

theorem picking_connection (s : Session σ) :
    s.picking.driver.connection = s.driver.connection.scanAnswered.2 := rfl

variable [Platform σ]

theorem issueAssociation_apply {t : Target} {block : Tlv.Block}
    (hu : u.driver.connection.target = { t with
      bssid := b.bssid, capability := b.capability, security := b.security })
    (hb : Params.association t.ssid b.channel b.security = .ok block)
    (hc : associationCommand t b = .ok c) :
    issueAssociation block b u =
      if b.security.needsKey then
        (.ok (), { u with driver := { u.driver with channel := u.driver.channel.stage c } })
      else sendCommand c u := by
  simp only [associationCommand, hb, bind, Except.bind] at hc
  simp only [issueAssociation, bind_apply, liftM_apply]
  cases hs : (Params.addSecurity block b.security b.vendor b.rsn).1 with
  | error e =>
    rw [hs] at hc
    cases hc
  | ok _ =>
    rw [hs] at hc
    simp only [issue_apply, hu, hc, gate, true_and]
    cases b.security.needsKey <;> rfl

theorem association_of_command {t : Target} (h : associationCommand t b = .ok c) :
    ∃ block, Params.association t.ssid b.channel b.security = .ok block := by
  cases hb : Params.association t.ssid b.channel b.security with
  | error e =>
    simp only [associationCommand, hb] at h
    cases h
  | ok block => exact ⟨block, rfl⟩

/-- Associating with a network that needs no key is one write. -/
theorem associate_unkeyed (hn : b.security.needsKey = false)
    (hc : associationCommand s.driver.connection.target b = .ok c) :
    associate b s = sendCommand c (s.toward b) := by
  obtain ⟨block, hb⟩ := association_of_command hc
  rw [associate_apply]
  simp only [bind_apply, liftM_apply, hb, hn, Bool.false_eq_true, if_false,
    issueAssociation_apply (u := s.toward b) rfl hb hc]

theorem sendCommand_target (c : Command) (s : Session σ) :
    (sendCommand c s).2.driver.connection.target = s.driver.connection.target := by
  cases hh : s.driver.channel.held with
  | true => rw [sendCommand_of_held hh]
  | false =>
    obtain ⟨o, device, ho⟩ := sendCommand_of_not_held hh c
    rw [ho]
    simp only [Driver.sent]
    split <;> rfl

/-- Associating with a network that needs a key is one write too: that of the key. -/
theorem associate_keyed (hn : b.security.needsKey = true)
    (hk : keyCommand s.driver.connection.target b = .ok k)
    (hc : associationCommand s.driver.connection.target b = .ok c) :
    associate b s = match sendCommand k (s.toward b) with
      | (.error e, u) => (.error e, u)
      | (.ok _, u) =>
        (.ok (), { u with driver := { u.driver with channel := u.driver.channel.stage c } }) := by
  obtain ⟨block, hb⟩ := association_of_command hc
  have ht := sendCommand_target k (s.toward b)
  rw [associate_apply]
  simp only [bind_apply, liftM_apply, hb, hn, if_true, giveKey_apply hk]
  generalize sendCommand k (s.toward b) = r at ht
  rcases r with ⟨e | _, u⟩
  · rfl
  · have hu : u.driver.connection.target = { s.driver.connection.target with
      bssid := b.bssid, capability := b.capability, security := b.security } := ht
    simp only [issueAssociation_apply hu hb hc, hn, if_true]

/-- The scan for the network that is looked for is one write. -/
theorem sendConnectScan_apply (hne : s.driver.connection.target.ssid ≠ [])
    (hle : s.driver.connection.target.ssid.length ≤ Dot11.maxSsid) :
    ∃ c, c.id = .scan ∧ ScanRequest.ofFrame? c.frame =
        some (.named s.driver.connection.target.ssid s.driver.config.scanTime) ∧
      sendConnectScan s = sendCommand c s := by
  obtain ⟨block, c, hb, hi, hr, hc⟩ := scanCommand_of_named hne hle s.driver.config.scanTime .get
    ⟨s.driver.connection.target.bssid, s.driver.connection.target.capability⟩
  refine ⟨c, hi, hr, ?_⟩
  simp only [sendConnectScan, bind_apply, view_apply, liftM_apply, hb]
  exact issue_of_encode (by decide) hc

/-- An answer that can be read goes to whoever has asked for the scan. -/
theorem answer_scan_of_ok {body : Bytes} {r : ScanReport} (hr : ScanReport.parse body = .ok r) :
    answer .scan 0 body s = (match s.driver.connection.scanAnswered.1 with
      | .stale => pure ()
      | .plain => reportNetworks r.networks
      | .connect => pickNetwork r.networks : Act σ Unit) s.picking := by
  simp only [answer, commandDone, onScan, bind_apply, update_apply, ne_eq, not_true_eq_false,
    if_false, takeScan_apply, hr]
  rfl

theorem answer_scan {body : Bytes} {r : ScanReport}
    (hv : s.driver.connection.scanAnswered.1 = .connect) (hr : ScanReport.parse body = .ok r) :
    answer .scan 0 body s = pickNetwork r.networks s.picking := by
  rw [answer_scan_of_ok hr, hv]

theorem connectFailed_of_spent {c : Connection} (hc : s.driver.connection = c)
    (h : c.retriesLeft = 0) (why : ConnectFailure) :
    connectFailed why s = (.ok (), ⟨{ s.driver.clearStaged with
        connection := { c with status := .notConnected } },
      ⟨s.link.device, .report (.connected (.error why)) :: s.link.past⟩⟩) := by
  have ha : c.attemptFailed = (.giveUp, { c with status := .notConnected }) := by
    rw [Connection.attemptFailed, if_neg]
    intro hh
    rw [h] at hh
    exact absurd hh.2 (by decide)
  rw [connectFailed_apply, hc, ha]
  rfl

/-- A failed attempt that is made again: the retry is spent, and one scan is written. -/
theorem connectFailed_of_left (hf : s.driver.channel.held = false)
    (hs : s.driver.connection.status = .connecting) (hr : 0 < s.driver.connection.retriesLeft)
    (hne : s.driver.connection.target.ssid ≠ [])
    (hle : s.driver.connection.target.ssid.length ≤ Dot11.maxSsid) (why : ConnectFailure) :
    ∃ (c : Command) (t : Session σ), c.id = .scan ∧ connectFailed why s = (.ok (), t) ∧
      t.driver.channel.staged = none ∧
      t.driver.connection.retriesLeft = s.driver.connection.retriesLeft - 1 ∧
      (t.driver.connection.status = .connecting ∧
          t.link.past = c.written s.driver.base (.ok ()) :: s.link.past ∨
        ∃ e, t.driver.connection.status = .notConnected ∧
          t.link.past = [.report (.connected (.error (.command (.transfer e)))),
            c.written s.driver.base (.error e)] ++ s.link.past) := by
  have ha : s.driver.connection.attemptFailed = (.rescan, { s.driver.connection with
      retriesLeft := s.driver.connection.retriesLeft - 1 }) := if_pos ⟨hs, hr⟩
  rw [connectFailed_apply, ha]
  generalize hu : ({ s with driver := { s.driver.clearStaged with
    connection := (Connection.RetryDecision.rescan, { s.driver.connection with
      retriesLeft := s.driver.connection.retriesLeft - 1 }).2 } } : Session σ) = u
  have hn : u.driver.channel.staged = none := by rw [← hu]; rfl
  have hl : u.driver.connection = { s.driver.connection with
      retriesLeft := s.driver.connection.retriesLeft - 1 } := by rw [← hu]
  have hb : u.driver.base = s.driver.base := by rw [← hu]; rfl
  have hp : u.link = s.link := by rw [← hu]
  have hh : u.driver.channel.held = false := by rw [← hu]; exact hf
  obtain ⟨c, hc, -, hw⟩ := sendConnectScan_apply (s := u) (by rw [hl]; exact hne)
    (by rw [hl]; exact hle)
  obtain ⟨o, device, ho⟩ := sendCommand_of_not_held hh c
  simp only [tryCatch_apply, hw, ho]
  cases o with
  | ok _ =>
    refine ⟨c, _, hc, rfl, ?_⟩
    rw [Driver.sent_scan hc]
    refine ⟨hn, ?_, .inl ⟨?_, ?_⟩⟩
    · simp only [hl, Connection.scanSent]
    · simp only [hl, Connection.scanSent, hs]
    · rw [hp, hb]
  | error e =>
    refine ⟨c, _, hc, rfl, ?_⟩
    rw [Driver.sent_of_not (.inl (by simp))]
    refine ⟨hn, ?_, .inr ⟨e, rfl, ?_⟩⟩
    · exact congrArg Connection.retriesLeft hl
    · rw [hp, hb]
      rfl

theorem pickNetwork_none {networks : List Bss}
    (h : networks.find? (·.ssid == s.driver.connection.target.ssid) = none) :
    pickNetwork networks s = connectFailed .notFound s := by
  simp only [pickNetwork, bind_apply, view_apply, h]

theorem pickNetwork_some {networks : List Bss}
    (h : networks.find? (·.ssid == s.driver.connection.target.ssid) = some b) :
    pickNetwork networks s =
      (tryCatch (associate b) fun e ↦ connectFailed (.command e) : Act σ Unit) s := by
  simp only [pickNetwork, bind_apply, view_apply, h]

end Session

open Session

def Action.isRefusedWrite : Action → Bool
  | .access (.writeBlock _ _ _ (.error _)) => true
  | _ => false

namespace Step

variable {σ : Type}

/-- The bus took all that was written. -/
def WritesTaken (m : Step σ) : Prop := ∀ a ∈ m.actions, ¬ a.isRefusedWrite

/-- The network that the attempt looks for was not there. The attempt scans again and has paid for
it, or it is over and its failure is told. -/
inductive Unfound (m : Step σ) : Prop
  | over (hr : m.before.driver.connection.retriesLeft = 0)
      (hs : m.after.driver.connection.status = .notConnected)
      (ha : m.actions = [.report (.connected (.error .notFound))])
  | again {c : Command} (hr : 0 < m.before.driver.connection.retriesLeft) (hc : c.id = .scan)
      (hl : m.after.driver.connection.retriesLeft =
        m.before.driver.connection.retriesLeft - 1)
      (hs : m.after.driver.connection.status = .connecting)
      (ha : m.actions = [c.written m.before.driver.base (.ok ())])
  | stranded {c : Command} {e : Errno} (hr : 0 < m.before.driver.connection.retriesLeft)
      (hc : c.id = .scan)
      (hs : m.after.driver.connection.status = .notConnected)
      (ha : m.actions = [.report (.connected (.error (.command (.transfer e)))),
        c.written m.before.driver.base (.error e)])

/-- The network was there: one frame is written, that of the association, or that of the key while
the association is kept back. -/
inductive Pursued (m : Step σ) (b : Bss) : Prop
  | associated {c : Command} (hb : b.security = .unprotected ∨ b.security = .wep)
      (ha : m.actions = [c.written m.before.driver.base (.ok ())])
      (hs : m.after.driver.channel.staged = m.before.driver.channel.staged)
      (hc : AssociationRequest.ofFrame? c.frame =
        some (b.request m.before.driver.connection.target.ssid))
  | keyed {k c : Command} (hb : b.security = .wpa ∨ b.security = .wpa2)
      (ha : m.actions = [k.written m.before.driver.base (.ok ())])
      (hk : KeyRequest.ofFrame? k.frame = some (b.keyRequest
        m.before.driver.connection.target.ssid m.before.driver.connection.target.passphrase))
      (hs : m.after.driver.channel.staged = some c)
      (hc : AssociationRequest.ofFrame? c.frame =
        some (b.request m.before.driver.connection.target.ssid))

variable [Platform σ] {m : Step σ}

/-- What was done before the attempt failed was done in the step. -/
theorem mem_actions_of_connectFailed {t : Session σ} {a : Action} {why : ConnectFailure}
    (ht : t.link.past = a :: m.before.link.past)
    (h : connectFailed why t = (m.outcome, m.after)) : a ∈ m.actions := by
  obtain ⟨l, hl, -⟩ := (connectFailed_confined intact_routine.confined why t).logged
  rw [h, ht] at hl
  rw [actions_eq (l := l ++ [a]) (by rw [hl, List.append_assoc]; rfl)]
  exact List.mem_append_right l List.mem_cons_self

theorem unfound_of_connectFailed (hf : m.before.driver.channel.held = false)
    (hs : m.before.driver.connection.status = .connecting) (hn : m.before.driver.connection.Named)
    (h : connectFailed .notFound m.before.picking = (m.outcome, m.after)) :
    m.Unfound ∧ m.after.driver.channel.staged = none := by
  have hc := m.before.picking_connection
  by_cases hr : 0 < m.before.driver.connection.retriesLeft
  · obtain ⟨c, t, hi, ht, hst, hl, he⟩ := connectFailed_of_left (s := m.before.picking) hf
      (by rw [hc, Connection.scanAnswered_status, hs])
      (by rw [hc, Connection.scanAnswered_retriesLeft]; exact hr)
      (by rw [hc, Connection.scanAnswered_target]; exact hn.ssid_ne hs)
      (by rw [hc, Connection.scanAnswered_target]; exact hn.ssid_le) .notFound
    rw [hc, Connection.scanAnswered_retriesLeft] at hl
    obtain rfl : t = m.after := by
      rw [ht] at h
      exact congrArg Prod.snd h
    refine ⟨?_, hst⟩
    rcases he with ⟨hs', hp⟩ | ⟨e, hs', hp⟩
    · exact .again hr hi hl hs' (actions_eq hp)
    · exact .stranded hr hi hs' (actions_eq hp)
  · have hz : m.before.driver.connection.retriesLeft = 0 := by simpa using hr
    rw [connectFailed_of_spent rfl (by rw [hc, Connection.scanAnswered_retriesLeft, hz])] at h
    have ha : m.after = _ := (congrArg Prod.snd h).symm
    refine ⟨.over hz ?_ (actions_eq ?_), ?_⟩
    · rw [ha]
    · rw [ha]
      rfl
    · rw [ha]
      rfl

theorem pursued_of_associate {b : Bss} (hf : m.before.driver.channel.held = false)
    (hn : m.before.driver.connection.Named) (hr : b.security = .wpa2 → b.rsn.isSome)
    (hz : (b.request m.before.driver.connection.target.ssid).size ≤ maxBody) (hw : m.WritesTaken)
    (h : (tryCatch (associate b) fun e ↦ connectFailed (.command e) : Act σ Unit)
      m.before.picking = (m.outcome, m.after)) : m.Pursued b := by
  have ht : m.before.picking.driver.connection.target = m.before.driver.connection.target := by
    rw [picking_connection, Connection.scanAnswered_target]
  obtain ⟨c, hc, hcf⟩ := associationCommand_of_size hr hz
  rw [← ht] at hc
  have hh : (m.before.picking.toward b).driver.channel.held = false := hf
  rw [tryCatch_apply] at h
  cases hk : b.security.needsKey with
  | false =>
    obtain ⟨o, device, ho⟩ := sendCommand_of_not_held hh c
    rw [associate_unkeyed hk hc, ho] at h
    cases o with
    | error e => exact absurd rfl (hw _ (mem_actions_of_connectFailed rfl h))
    | ok _ =>
      have ha : m.after = _ := (congrArg Prod.snd h).symm
      refine .associated ?_ (actions_eq ?_) ?_ hcf
      · cases hs : b.security <;> simp [hs, Security.needsKey] at hk ⊢
      · rw [ha]
        rfl
      · rw [ha]
        exact Driver.sent_staged _ _ _
  | true =>
    obtain ⟨k, hkc, hkf⟩ := keyCommand_of_named b hn.ssid_le hn.passphrase_le
    rw [← ht] at hkc
    obtain ⟨o, device, ho⟩ := sendCommand_of_not_held hh k
    rw [associate_keyed hk hkc hc, ho] at h
    cases o with
    | error e => exact absurd rfl (hw _ (mem_actions_of_connectFailed rfl h))
    | ok _ =>
      have ha : m.after = _ := (congrArg Prod.snd h).symm
      refine .keyed ?_ (actions_eq ?_) hkf ?_ hcf
      · cases hs : b.security <;> simp [hs, Security.needsKey] at hk ⊢
      · rw [ha]
        rfl
      · rw [ha]
        rfl

end Step

open ScriptedChip

/-- In every run, the answer to an attempt's scan decides what the attempt does next. Of the
networks that are described well, up to the first that is not, the attempt picks the first with its
name. If there is none, it has failed. If there is one and the bus takes what is written, one frame
goes out: the association, or the key and the association is kept back until the chip has taken it.
An association that is too long for a command is left out here. -/
theorem scan_answer_pursued {σ : Type} [Platform σ] {config : Config} {firmware : FirmwareSource}
    {device : σ} {calls : List Call} {pre post : List (Step σ)} {m : Step σ} {body : Bytes}
    (h : steps calls (fresh config firmware device) = pre ++ m :: post)
    (hm : m.message = .response .scan 0 body) (hb : 3 ≤ body.length)
    (hv : m.before.driver.connection.scanAnswered.1 = .connect) :
    ∃ r, ScanReport.parse body = .ok r ∧
      match r.networks.find? (·.ssid == m.before.driver.connection.target.ssid) with
      | none => m.Unfound ∧ m.after.driver.channel.staged = none
      | some b => (b.request m.before.driver.connection.target.ssid).size ≤ maxBody →
          m.WritesTaken → m.Pursued b := by
  obtain ⟨hp, hg, hs⟩ := steps_around h
  have hn : m.before.driver.connection.Named :=
    hp.named (fresh_sound _ _ _) (.new config.retryLimit)
  have hc : m.before.driver.connection.status = .connecting := Connection.status_of_connect hv
  have ha := hg.answer_of_response hm
  obtain ⟨r, hr⟩ : ∃ r, ScanReport.parse body = .ok r := by
    match body, hb with
    | s₀ :: s₁ :: n :: sets, _ => exact ⟨_, rfl⟩
  refine ⟨r, hr, ?_⟩
  have ht : m.before.picking.driver.connection.target = m.before.driver.connection.target := by
    rw [picking_connection, Connection.scanAnswered_target]
  rw [answer_scan hv hr] at ha
  split
  · rename_i hf
    rw [← ht] at hf
    rw [pickNetwork_none hf] at ha
    exact Step.unfound_of_connectFailed hs.free hc hn ha
  · rename_i b hf
    intro hz hw
    have hsec := ScanReport.isSome_rsn_of_mem (List.mem_of_find?_eq_some hf)
    rw [← ht] at hf
    rw [pickNetwork_some hf] at ha
    exact Step.pursued_of_associate hs.free hn hsec hz hw ha

/-- The network that is reported is protected by WPA2, so that the key goes out first. -/
theorem scan_answer_pursued_keyed :
    ∃ pre m post body, stepsOf [.connect [65] [112], .serviceInterrupt]
        [response .scan 0 securedNetwork] = pre ++ m :: post ∧
      m.message = .response .scan 0 body ∧ 3 ≤ body.length ∧
      m.before.driver.connection.scanAnswered.1 = .connect ∧
      ∃ b, (b.request [65]).size ≤ maxBody ∧ m.WritesTaken ∧ m.Pursued b := by
  obtain ⟨pre, m, post, h, -, hm⟩ := exists_step
    (stepsOf [.connect [65] [112], .serviceInterrupt] [response .scan 0 securedNetwork]) 21
    (fun m ↦ (m.message, m.before.driver.connection.scanAnswered.1,
      m.before.driver.connection.target.ssid, m.actions.all fun a ↦ !a.isRefusedWrite))
    (a := (.response .scan 0 securedNetwork, .connect, [65], true)) (by decide +kernel)
  simp only [Prod.mk.injEq] at hm
  obtain ⟨hm, hv, ht, hw⟩ := hm
  have hw : m.WritesTaken := by
    intro a ha
    simpa using List.all_eq_true.mp hw a ha
  obtain ⟨r, hr, hp⟩ := scan_answer_pursued h hm (by decide) hv
  have hz : ∀ b ∈ r.networks, (b.request [65]).size ≤ maxBody := by
    cases hr
    decide +kernel
  have hf : (r.networks.find? (·.ssid == [65])).isSome := by
    cases hr
    decide +kernel
  obtain ⟨b, hf⟩ := Option.isSome_iff_exists.mp hf
  have hz := hz b (List.mem_of_find?_eq_some hf)
  rw [ht, hf] at hp
  exact ⟨pre, m, post, _, h, hm, by decide, hv, b, hz, hw, hp hz hw⟩

end SdioWlan
