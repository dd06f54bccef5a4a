import SdioWlan.Proofs.Station.Effect
import SdioWlan.Proofs.Station.Quiet

namespace SdioWlan

open Connection (Target)

namespace Session

variable {σ α : Type}

/-- Work ends with an outcome, some actions and a station that fit together. -/
def Does (R : Except DriverError α → List Action → Station → Prop) (s : Session σ)
    (r : Except DriverError α × Session σ) : Prop :=
  ∃ l, R r.1 l r.2.driver.station ∧ r.2.link.past = l ++ s.link.past

theorem Quiet.does {s : Session σ} {r : Except DriverError α × Session σ} (h : Quiet s r.2) :
    Does (fun _ l b ↦ b = s.driver.station ∧ ∀ x ∈ l, x.Calm) s r := by
  obtain ⟨hk, l, hl, hl'⟩ := h
  exact ⟨l, ⟨hk, hl'⟩, hl⟩

theorem bind_throw_snd (x : Act σ Unit) (e : DriverError) (s : Session σ) :
    (((x >>= fun _ ↦ throw e) : Act σ Unit) s).2 = (x s).2 := by
  rw [bind_apply]
  rcases x s with ⟨e | _, t⟩ <;> rfl

def strand (e : DriverError) : Act σ Unit := do
  setConnection (← view (·.connection.abort))
  report (.connected (.error (.command e)))

/-- One command is written, and the result is what the bus makes of it. -/
def Issues (c : Command) (s : Session σ) (r : Except DriverError Unit × Session σ) : Prop :=
  ∃ o : Except Errno Unit, r.1 = o.mapError .transfer ∧ r.2.driver = s.driver.sent c o ∧
    r.2.link.past = c.written s.driver.base o :: s.link.past

/-- Whoever watches over the write of a command takes over where the bus has refused it. -/
theorem Issues.tryCatch {s : Session σ} {x : Act σ Unit} {c : Command} (h : Issues c s (x s))
    (f : DriverError → Act σ Unit) :
    (∃ t, (tryCatch x f) s = (.ok (), t) ∧ t.driver = s.driver.sent c (.ok ()) ∧
      t.link.past = c.written s.driver.base (.ok ()) :: s.link.past) ∨
    ∃ e t, (tryCatch x f) s = f (.transfer e) t ∧ t.driver = s.driver.sent c (.error e) ∧
      t.link.past = c.written s.driver.base (.error e) :: s.link.past := by
  obtain ⟨o, ho, hd, hl⟩ := h
  rw [tryCatch_apply]
  rcases hx : x s with ⟨r, t⟩
  rw [hx] at ho hd hl
  cases o with
  | ok _ =>
    obtain rfl : r = .ok () := ho
    exact .inl ⟨t, rfl, hd, hl⟩
  | error e =>
    obtain rfl : r = .error (.transfer e) := ho
    exact .inr ⟨e, t, rfl, hd, hl⟩

variable [Platform σ] {s : Session σ}

theorem issue_apply (id : CommandId) (action : CommandAction) (payload : Bytes) (s : Session σ) :
    issue id action payload s =
      match Command.encode id action payload
        ⟨s.driver.connection.target.bssid, s.driver.connection.target.capability⟩ with
      | .error e => (.error e, s)
      | .ok c =>
        match gate id s.driver.connection.target.security with
        | .sendNow => sendCommand c s
        | .stage =>
          (.ok (), { s with driver := { s.driver with channel := s.driver.channel.stage c } }) := by
  simp only [issue, bind_apply, view_apply, liftM_apply]
  cases Command.encode id action payload
    ⟨s.driver.connection.target.bssid, s.driver.connection.target.capability⟩ with
  | error e => rfl
  | ok c => cases gate id s.driver.connection.target.security <;> rfl

/-- A command that waits for nothing goes out as soon as it is encoded. -/
theorem issue_of_encode {id : CommandId} (ha : id ≠ .associate) {action : CommandAction}
    {payload : Bytes} {c : Command} (hc : Command.encode id action payload
      ⟨s.driver.connection.target.bssid, s.driver.connection.target.capability⟩ = .ok c) :
    issue id action payload s = sendCommand c s := by
  have hg : gate id s.driver.connection.target.security = .sendNow := if_neg fun hn ↦ ha hn.1
  rw [issue_apply, hc]
  simp only [hg]

theorem sendCommand_issues (h : s.driver.channel.held = false) (c : Command) :
    Issues c s (sendCommand c s) := by
  obtain ⟨o, device, ho⟩ := sendCommand_of_not_held h c
  rw [ho]
  exact ⟨o, rfl, rfl, rfl⟩

theorem sendCommand_does (h : s.driver.station.held = false) {c : Command}
    (hc : c.id ≠ .scan) :
    Does (fun o l b ↦ ∃ w base, o = w.mapError .transfer ∧ l = [c.written base w] ∧
      b = s.driver.station) s (sendCommand c s) := by
  obtain ⟨w, device, hw⟩ := sendCommand_of_not_held h c
  rw [hw]
  refine ⟨_, ⟨w, s.driver.base, rfl, rfl, ?_⟩, rfl⟩
  have hh : s.driver.channel.held = false := h
  cases w <;> simp [Driver.sent, Driver.written, Driver.station, CommandChannel.release, hc, hh]

theorem sendCommand_scans (h : s.driver.station.held = false) {c : Command} (hc : c.id = .scan) :
    Does s.driver.station.Scans s (sendCommand c s) := by
  obtain ⟨w, device, hw⟩ := sendCommand_of_not_held h c
  have hh : s.driver.channel.held = false := h
  rw [hw]
  refine ⟨[c.written s.driver.base w], ?_, rfl⟩
  cases w with
  | error e =>
    have hs : (s.driver.sent c (.error e)).station = s.driver.station := by
      simp [Driver.sent, Driver.written, Driver.station, CommandChannel.release, hh]
    simpa only [hs] using .refused hc s.driver.base e
  | ok u =>
    have hs : (s.driver.sent c (.ok ())).station =
        s.driver.station.move s.driver.station.connection.scanSent := by
      simp [Driver.sent, Driver.written, Driver.station, CommandChannel.release, hc, hh,
        Station.move]
    simpa only [hs] using .sent hc s.driver.base

theorem issue_scans (h : s.driver.station.held = false) (action : CommandAction)
    (payload : Bytes) : Does s.driver.station.Scans s (issue .scan action payload s) := by
  cases hc : Command.encode .scan action payload
    ⟨s.driver.connection.target.bssid, s.driver.connection.target.capability⟩ with
  | error e =>
    rw [issue_apply, hc]
    exact ⟨[], .unwritten e, rfl⟩
  | ok c =>
    rw [issue_of_encode (by decide) hc]
    exact sendCommand_scans h (Command.encode_id hc).1

theorem sendConnectScan_scans (h : s.driver.station.held = false) :
    Does s.driver.station.Scans s (sendConnectScan s) := by
  simp only [sendConnectScan, bind_apply, view_apply, liftM_apply]
  cases Params.scanSsid s.driver.connection.target.ssid s.driver.config.scanTime with
  | error e => exact ⟨[], .unwritten e, rfl⟩
  | ok block => exact issue_scans h .get block.bytes

theorem connectFailed_apply (why : ConnectFailure) (s : Session σ) :
    connectFailed why s =
      (match s.driver.connection.attemptFailed.1 with
        | .giveUp => report (.connected (.error why))
        | .rescan => tryCatch sendConnectScan strand)
      { s with driver := { s.driver.clearStaged with
        connection := s.driver.connection.attemptFailed.2 } } := by
  simp only [connectFailed, bind_apply, update_apply, view_apply, setConnection]
  cases hd : s.driver.connection.attemptFailed.1 with
  | rescan =>
    simp only [Driver.clearStaged, hd]
    rfl
  | giveUp => simp only [Driver.clearStaged, hd]

theorem connectFailed_fails (h : s.driver.station.held = false) (why : ConnectFailure) :
    Does (fun _ l b ↦ s.driver.station.Fails why l b) s (connectFailed why s) := by
  rw [connectFailed_apply]
  cases hd : s.driver.connection.attemptFailed.1 with
  | giveUp => exact ⟨_, .gaveUp hd, rfl⟩
  | rescan =>
    simp only [tryCatch_apply]
    generalize hu : ({ s with driver := { s.driver.clearStaged with
      connection := s.driver.connection.attemptFailed.2 } } : Session σ) = u
    have hb : u.driver.station =
        s.driver.station.forget.move s.driver.station.connection.attemptFailed.2 := by
      rw [← hu]
      rfl
    have hp : u.link.past = s.link.past := by rw [← hu]
    have hs : Does u.driver.station.Scans u (sendConnectScan u) :=
      sendConnectScan_scans (by rw [hb]; exact h)
    rcases hr : sendConnectScan u with ⟨e | _, t⟩
    · rw [hr, hb] at hs
      obtain ⟨l, hs, hl⟩ := hs
      refine ⟨_, .stranded hd hs, ?_⟩
      rw [List.cons_append, ← hp, ← hl]
      rfl
    · rw [hr, hb] at hs
      obtain ⟨l, hs, hl⟩ := hs
      exact ⟨l, .retried hd hs, hl.trans (by rw [hp])⟩

def toward (s : Session σ) (b : Bss) : Session σ :=
  { s with driver := { s.driver with
      connection := s.driver.connection.setPeer b.bssid b.capability b.security } }

omit [Platform σ] in
theorem toward_target {b : Bss} {u : Session σ}
    (h : u.driver.station = (s.toward b).driver.station) :
    u.driver.connection.target = { s.driver.connection.target with
      bssid := b.bssid, capability := b.capability, security := b.security } := by
  have hc : u.driver.connection = (s.toward b).driver.connection := congrArg Station.connection h
  rw [hc]
  rfl

def giveKey (b : Bss) : Act σ Unit := do
  let target ← view (·.connection.target)
  let key ← Params.masterKey target.ssid b.bssid target.passphrase
  issue .supplicantPmk .set key.bytes

def issueAssociation (block : Tlv.Block) (b : Bss) : Act σ Unit := do
  let secured := Params.addSecurity block b.security b.vendor b.rsn
  secured.1
  issue .associate .get secured.2.bytes

theorem associate_apply (b : Bss) (s : Session σ) :
    associate b s = (do
      let block ← liftM (Params.association s.driver.connection.target.ssid b.channel b.security)
      if b.security.needsKey then giveKey b >>= fun _ ↦ issueAssociation block b
      else issueAssociation block b : Act σ Unit) (s.toward b) := by
  have ht : (s.driver.connection.setPeer b.bssid b.capability b.security).target.ssid =
      s.driver.connection.target.ssid := rfl
  have hp : (s.driver.connection.setPeer b.bssid b.capability b.security).target.passphrase =
      s.driver.connection.target.passphrase := rfl
  simp only [associate, bind_apply, setConnection, view_apply, update_apply, liftM_apply, ht]
  cases Params.association s.driver.connection.target.ssid b.channel b.security with
  | error e => rfl
  | ok block =>
    cases b.security.needsKey with
    | false => rfl
    | true =>
      simp only [giveKey, if_true, bind_apply, view_apply, liftM_apply, toward, ht, hp]
      cases Params.masterKey s.driver.connection.target.ssid b.bssid
        s.driver.connection.target.passphrase with
      | error e => rfl
      | ok key =>
        simp only [issueAssociation, bind_apply, liftM_apply]

/-- Giving a key that can be encoded is sending its command. -/
theorem giveKey_apply {b : Bss} {k : Command}
    (h : keyCommand s.driver.connection.target b = .ok k) :
    giveKey b (s.toward b) = sendCommand k (s.toward b) := by
  have ht : (s.toward b).driver.connection.target.ssid = s.driver.connection.target.ssid ∧
      (s.toward b).driver.connection.target.passphrase = s.driver.connection.target.passphrase :=
    ⟨rfl, rfl⟩
  simp only [keyCommand] at h
  simp only [giveKey, bind_apply, view_apply, liftM_apply, ht]
  cases hm : Params.masterKey s.driver.connection.target.ssid b.bssid
    s.driver.connection.target.passphrase with
  | error e =>
    rw [hm] at h
    cases h
  | ok key =>
    rw [hm] at h
    have he : Command.encode .supplicantPmk .set key.bytes
        ⟨(s.toward b).driver.connection.target.bssid,
          (s.toward b).driver.connection.target.capability⟩ = .ok k := h
    exact issue_of_encode (by decide) he

theorem giveKey_does (h : s.driver.station.held = false) {b : Bss} :
    Does (fun o l a ↦ a = (s.toward b).driver.station ∧
      ((∃ e, o = .error e ∧ l = []) ∨
        ∃ k base w, keyCommand s.driver.connection.target b = .ok k ∧
          o = w.mapError .transfer ∧ l = [k.written base w])) s (giveKey b (s.toward b)) := by
  have ht : (s.toward b).driver.connection.target.ssid = s.driver.connection.target.ssid ∧
      (s.toward b).driver.connection.target.passphrase = s.driver.connection.target.passphrase :=
    ⟨rfl, rfl⟩
  simp only [giveKey, bind_apply, view_apply, liftM_apply, ht]
  cases hm : Params.masterKey s.driver.connection.target.ssid b.bssid
    s.driver.connection.target.passphrase with
  | error e => exact ⟨[], ⟨rfl, .inl ⟨e, rfl, rfl⟩⟩, rfl⟩
  | ok key =>
    cases he : Command.encode .supplicantPmk .set key.bytes
      ⟨(s.toward b).driver.connection.target.bssid,
        (s.toward b).driver.connection.target.capability⟩ with
    | error e =>
      simp only [issue_apply, he]
      exact ⟨[], ⟨rfl, .inl ⟨e, rfl, rfl⟩⟩, rfl⟩
    | ok k =>
      have hk : keyCommand s.driver.connection.target b = .ok k := by
        rw [keyCommand, hm]
        exact he
      have hi : k.id ≠ .scan := by rw [(Command.encode_id he).1]; simp
      have hs : (s.toward b).driver.station.held = false := h
      obtain ⟨l, ⟨w, base, ho, hl, ha⟩, hp⟩ := sendCommand_does hs hi
      simp only [issue_of_encode (by decide) he]
      exact ⟨l, ⟨ha, .inr ⟨k, base, w, hk, ho, hl⟩⟩, hp⟩

theorem issueAssociation_does {u : Session σ} (h : u.driver.station.held = false) {b : Bss}
    {t : Target} (hu : u.driver.connection.target = { t with
      bssid := b.bssid, capability := b.capability, security := b.security })
    {block : Tlv.Block} (hb : Params.association t.ssid b.channel b.security = .ok block) :
    Does (fun o l a ↦ (∃ e, o = .error e ∧ l = [] ∧ a = u.driver.station) ∨
      ∃ c, associationCommand t b = .ok c ∧
        if b.security.needsKey then o = .ok () ∧ l = [] ∧ a = u.driver.station.stage c
        else ∃ base w, o = w.mapError .transfer ∧ l = [c.written base w] ∧ a = u.driver.station)
      u (issueAssociation block b u) := by
  have hc : associationCommand t b =
      (Params.addSecurity block b.security b.vendor b.rsn).1 >>= fun _ ↦ Command.encode .associate
        .get (Params.addSecurity block b.security b.vendor b.rsn).2.bytes
        ⟨b.bssid, b.capability⟩ := by
    rw [associationCommand, hb]
    rfl
  simp only [issueAssociation, bind_apply, liftM_apply]
  cases hs : (Params.addSecurity block b.security b.vendor b.rsn).1 with
  | error e => exact ⟨[], .inl ⟨e, rfl, rfl, rfl⟩, rfl⟩
  | ok _ =>
    rw [hs] at hc
    simp only [issue_apply, hu]
    cases he : Command.encode .associate .get
      (Params.addSecurity block b.security b.vendor b.rsn).2.bytes ⟨b.bssid, b.capability⟩ with
    | error e => exact ⟨[], .inl ⟨e, rfl, rfl, rfl⟩, rfl⟩
    | ok c =>
      have hi : c.id ≠ .scan := by rw [(Command.encode_id he).1]; simp
      have hc' : associationCommand t b = .ok c := hc.trans he
      simp only [hc', gate, true_and]
      cases hn : b.security.needsKey with
      | true => exact ⟨[], .inr ⟨c, rfl, by simp only [if_true, true_and]; rfl⟩, rfl⟩
      | false =>
        obtain ⟨l, ⟨w, base, ho, hl, ha⟩, hp⟩ := sendCommand_does h hi
        exact ⟨l, .inr ⟨c, rfl, by simpa using ⟨base, w, ho, hl, ha⟩⟩, hp⟩

/-- Where no key is needed, the association is written at once. -/
theorem issueAssociation_joins (h : s.driver.station.held = false) {b : Bss} {block : Tlv.Block}
    (hb : Params.association s.driver.connection.target.ssid b.channel b.security = .ok block)
    (hn : b.security.needsKey = false) :
    Does (s.driver.station.Joins b) s (issueAssociation block b (s.toward b)) := by
  have hf : (s.toward b).driver.station.held = false := h
  obtain ⟨l, ha | ⟨c, hc, ha⟩, hl⟩ := issueAssociation_does hf (toward_target rfl) hb
  · obtain ⟨e, ho, rfl, ha⟩ := ha
    refine ⟨[], ?_, hl⟩
    simp only [ho, ha]
    exact .unwritten e
  · simp only [hn, Bool.false_eq_true, if_false] at ha
    obtain ⟨base, w, ho, rfl, ha⟩ := ha
    refine ⟨_, ?_, hl⟩
    simp only [ho, ha]
    cases w with
    | error e => exact .refused hn hc base e
    | ok _ => exact .sent hn hc base

/-- Where a key is needed, it goes first, and the association is kept back. -/
theorem giveKey_joins (h : s.driver.station.held = false) {b : Bss} {block : Tlv.Block}
    (hb : Params.association s.driver.connection.target.ssid b.channel b.security = .ok block)
    (hn : b.security.needsKey = true) :
    Does (s.driver.station.Joins b) s
      ((giveKey b >>= fun _ ↦ issueAssociation block b) (s.toward b)) := by
  rw [bind_apply]
  obtain ⟨l, ⟨ha, hk⟩, hl⟩ := giveKey_does h (b := b)
  rcases hr : giveKey b (s.toward b) with ⟨e | _, u⟩
  · rw [hr] at ha hk hl
    refine ⟨l, ?_, hl⟩
    simp only [ha]
    rcases hk with ⟨e', ho, rfl⟩ | ⟨k, base, w, hk, ho, rfl⟩
    · exact .unwritten e
    · cases w with
      | error e' =>
        cases ho
        exact .keyRefused hk base e'
      | ok _ => cases ho
  · rw [hr] at ha hk hl
    rcases hk with ⟨e', ho, rfl⟩ | ⟨k, base, w, hk, ho, rfl⟩
    · cases ho
    cases w with
    | error e' => cases ho
    | ok _ =>
      have hf : u.driver.station.held = false := by rw [ha]; exact h
      obtain ⟨l, ho | ⟨c, hc, ho⟩, hl'⟩ := issueAssociation_does hf (toward_target ha) hb
      · obtain ⟨e, ho, rfl, hs⟩ := ho
        refine ⟨_, ?_, hl'.trans hl⟩
        simp only [ho, hs, ha]
        exact .keyOnly hk base e
      · simp only [hn, if_true] at ho
        obtain ⟨ho, rfl, hs⟩ := ho
        refine ⟨_, ?_, hl'.trans hl⟩
        simp only [ho, hs, ha]
        exact .staged hn hk hc base

theorem associate_joins (h : s.driver.station.held = false) (b : Bss) :
    Does (s.driver.station.Joins b) s (associate b s) := by
  rw [associate_apply, bind_apply, liftM_apply]
  cases hb : Params.association s.driver.connection.target.ssid b.channel b.security with
  | error e => exact ⟨[], .unwritten e, rfl⟩
  | ok block =>
    cases hn : b.security.needsKey with
    | false => exact issueAssociation_joins h hb hn
    | true => exact giveKey_joins h hb hn

end Session

end SdioWlan
