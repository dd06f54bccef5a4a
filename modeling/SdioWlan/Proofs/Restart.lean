import SdioWlan.Proofs.ScriptedChip
import SdioWlan.Proofs.Station.Sound

namespace SdioWlan

namespace Driver

/-- What a driver knows of connections, clients and data that have passed. -/
def carried (d : Driver) : Connection × Option Command × ClientTable × PortAllocator :=
  (d.connection, d.channel.staged, d.clients, d.ports)

structure AsNew (d : Driver) : Prop where
  status : d.connection.status = .notConnected
  scans : d.connection.scans = []
  staged : d.channel.staged = none
  clients : d.clients.toList = []
  nextRead : d.ports.nextRead = .first
  nextWrite : d.ports.nextWrite = .first

theorem AsNew.congr {d e : Driver} (h : d.carried = e.carried) (he : e.AsNew) : d.AsNew := by
  simp only [carried, Prod.mk.injEq] at h
  obtain ⟨hc, hs, ht, hp⟩ := h
  exact ⟨hc ▸ he.status, hc ▸ he.scans, hs ▸ he.staged, ht ▸ he.clients, hp ▸ he.nextRead,
    hp ▸ he.nextWrite⟩

theorem asNew_iff {d e : Driver} (h : d.carried = e.carried) : d.AsNew ↔ e.AsNew :=
  ⟨.congr h.symm, .congr h⟩

theorem new_asNew (config : Config) (firmware : FirmwareSource) : (new config firmware).AsNew :=
  ⟨rfl, rfl, rfl, rfl, rfl, rfl⟩

end Driver

theorem Bootstrap.fail_isReady (b : Bootstrap) : b.fail.isReady = b.isReady := by
  unfold fail isReady
  split
  · next h => simp [h]
  · next h => cases hs : b.stage <;> simp_all

namespace Session

variable {σ : Type}

/-- Work after which the driver knows what it knew before, and is ready exactly if it was. -/
abbrev Carries : Session σ → Session σ → Prop :=
  Footprint (fun d ↦ (d.carried, d.boot.isReady)) fun _ ↦ True

theorem failBoot_carries (e : DriverError) : Guarantees Carries (failBoot e : Act σ Unit) :=
  .bind (Footprint.update fun d ↦ by simp only [Bootstrap.fail_isReady]; rfl) fun _ ↦
    Footprint.record trivial

theorem failBoot_throw_apply (e : DriverError) (s : Session σ) :
    ((do
      failBoot e
      throw e : Act σ Unit) s).1 = .error e := rfl

variable [Platform σ]

theorem sendCommand_carries {c : Command} (h : c.id ≠ .scan) :
    Guarantees Carries (sendCommand c : Act σ Unit) := by
  intro s
  cases hh : s.driver.channel.held with
  | true =>
    rw [sendCommand_of_held hh]
    exact refl_of Carries s
  | false =>
    obtain ⟨o, device, ho⟩ := sendCommand_of_not_held hh c
    rw [ho, Driver.sent_of_not (.inr h)]
    refine ⟨?_, .cons trivial _⟩
    cases o <;> rfl

theorem issue_carries {id : CommandId} (hs : id ≠ .scan) (ha : id ≠ .associate)
    (action : CommandAction) (payload : Bytes) :
    Guarantees Carries (issue id action payload : Act σ Unit) := by
  refine (Footprint.view _).bind fun target ↦ .lift_bind fun c hc ↦ ?_
  obtain ⟨rfl, -⟩ := Command.encode_id hc
  simpa only [gate, ha, false_and, if_false] using sendCommand_carries hs

theorem powerUp_carries : Guarantees Carries (powerUp : Act σ UInt32) :=
  powerUp_footprint (fun _ _ ↦ trivial) (fun _ _ _ _ ↦ trivial) (fun _ _ _ ↦ trivial)
    fun _ ↦ trivial

def Starts (s t : Session σ) : Prop :=
  t.driver.channel.inFlight = some .funcInit ∧ ∃ (c : Command) (base : UInt32),
    c.id = .funcInit ∧ t.link.past = c.written base (.ok ()) :: s.link.past

def funcInitCommand : Command := ⟨.funcInit, .sta, [], by decide⟩

theorem funcInit_issues {s : Session σ} (hf : s.driver.channel.held = false) :
    Issues funcInitCommand s (issue .funcInit .get [] s) := by
  have hc : Command.encode .funcInit .get []
      ⟨s.driver.connection.target.bssid, s.driver.connection.target.capability⟩ =
        .ok funcInitCommand := rfl
  rw [issue_of_encode (by decide) hc]
  exact sendCommand_issues hf funcInitCommand

def begun (base : UInt32) (s : Session σ) : Session σ :=
  { s with driver := { s.driver with base, boot := ⟨.awaitFuncInit, none⟩ } }

theorem afterPowerUp_apply (base : UInt32) (s : Session σ) :
    afterPowerUp (.ok base) s =
      (tryCatch (issue .funcInit .get []) fun e ↦ do
          failBoot e
          throw e : Act σ Unit) (begun base s) := rfl

/-- The first command is one write, and what becomes of it is what the caller hears. -/
theorem afterPowerUp_ok {s : Session σ} (hf : s.driver.channel.held = false) (base : UInt32) :
    (∃ t, afterPowerUp (.ok base) s = (.ok (), t) ∧ t.driver.base = base ∧
      t.driver.channel.inFlight = some .funcInit ∧
      t.link.past = funcInitCommand.written base (.ok ()) :: s.link.past) ∨
    ∃ e t, afterPowerUp (.ok base) s = (.error (.transfer e), t) ∧ t.driver.base = base ∧
      t.link.past = .report (.initialized (.error (.transfer e))) ::
        funcInitCommand.written base (.error e) :: s.link.past := by
  have hs (o : Except Errno Unit) : (begun base s).driver.sent funcInitCommand o =
      (begun base s).driver.written funcInitCommand o := Driver.sent_of_not (.inr (by decide))
  have hw := funcInit_issues (s := begun base s) hf
  rw [afterPowerUp_apply]
  obtain ⟨t, ht, hd, hl⟩ | ⟨e, t, ht, hd, hl⟩ := hw.tryCatch fun e ↦ do
    failBoot e
    throw e
  · rw [hs] at hd
    exact .inl ⟨t, ht, by rw [hd]; rfl, by rw [hd]; rfl, hl⟩
  · rw [hs] at hd
    exact .inr ⟨e, _, ht, congrArg Driver.base hd, congrArg _ hl⟩

theorem afterPowerUp_carried (base : Except DriverError UInt32) (s : Session σ) :
    (afterPowerUp base s).2.driver.carried = s.driver.carried ∧
      (s.driver.boot.isReady = false → (afterPowerUp base s).2.driver.boot.isReady = false) := by
  cases base with
  | error e =>
    have h := ((failBoot_carries e).bind fun _ ↦ .throw e : Guarantees Carries
      (afterPowerUp (.error e) : Act σ Unit)) s
    have hk := Prod.mk.inj h.kept
    exact ⟨hk.1, fun hr ↦ hk.2.trans hr⟩
  | ok base =>
    rw [afterPowerUp_apply]
    have hi : Guarantees Carries (issue .funcInit .get [] : Act σ Unit) :=
      issue_carries (by simp) (by simp) .get []
    have hp := hi.tryCatch fun e ↦ .bind (failBoot_carries e) fun _ ↦ .throw e
    have hk := Prod.mk.inj (hp (begun base s)).kept
    exact ⟨hk.1, fun _ ↦ hk.2⟩

theorem init_carried (s : Session σ) :
    (init s).2.driver.carried = s.driver.carried ∧
      (s.driver.boot.isReady = false → (init s).2.driver.boot.isReady = false) := by
  have hp := Prod.mk.inj (powerUp_carries s).kept
  obtain ⟨hc, hr⟩ := afterPowerUp_carried (powerUp s).1 (powerUp s).2
  rw [init_eq]
  exact ⟨hc.trans hp.1, fun h ↦ hr (hp.2.trans h)⟩

theorem init_starts {s t : Session σ} (hf : s.driver.channel.held = false)
    (h : init s = (.ok (), t)) : (powerUp s).2.Starts t := by
  have hk : (powerUp s).2.driver.channel.held = false :=
    (congrArg (·.channel.held) (powerUp_silent s).kept : _).trans hf
  rw [init_eq] at h
  cases hb : (powerUp s).1 with
  | error e =>
    rw [hb] at h
    cases (failBoot_throw_apply e _).symm.trans (congrArg Prod.fst h)
  | ok base =>
    rw [hb] at h
    obtain ⟨v, hv, -, hc, hl⟩ | ⟨e, v, hv, -, -⟩ := afterPowerUp_ok hk base
    · cases hv.symm.trans h
      exact ⟨hc, funcInitCommand, base, rfl, hl⟩
    · cases hv.symm.trans h

/-- Before a bootstrap has ended, calls that read no frame leave all as it is. -/
theorem perform_carried {c : Call} (hv : c ≠ .serviceInterrupt) {s : Session σ}
    (h : s.driver.boot.isReady = false) (hs : s.driver.connection.status = .notConnected) :
    (perform c s).2.driver.carried = s.driver.carried ∧
      (perform c s).2.driver.boot.isReady = false := by
  have hkeep {t : Session σ} (ht : Carries s t) :
      t.driver.carried = s.driver.carried ∧ t.driver.boot.isReady = false :=
    ⟨(Prod.mk.inj ht.kept).1, (Prod.mk.inj ht.kept).2.trans h⟩
  cases c with
  | init => exact ⟨(init_carried s).1, (init_carried s).2 h⟩
  | serviceInterrupt => exact absurd rfl hv
  | shutdown => exact hkeep (issue_carries (by simp) (by simp) _ _ s)
  | disconnect => simp [perform, disconnect, bind_apply, hs, h]
  | leased mac lease =>
    refine hkeep ((Guarantees.bind (Footprint.view _) fun _ ↦ .ite (fun _ ↦ ?_) fun _ ↦ .pure _ :
      Guarantees Carries (leased mac lease : Act σ Unit)) s)
    exact Footprint.record trivial
  | scan | scanSsid => simp only [perform, startScan, ensureReady_bind_of_not_ready h, h, and_self]
  | connect => simp only [perform, connect, ensureReady_bind_of_not_ready h, h, and_self]
  | startAp => simp only [perform, startAp, ensureReady_bind_of_not_ready h, h, and_self]
  | stopAp | deauthClient => simp only [perform, ensureReady_bind_of_not_ready h, h, and_self]
  | sendData => simp only [perform, sendData, ensureReady_bind_of_not_ready h, h, and_self]

theorem run_asNew {calls : List Call} (hv : .serviceInterrupt ∉ calls) {s : Session σ}
    (h : s.driver.boot.isReady = false) (hs : s.driver.AsNew) :
    (run calls s).2.driver.AsNew := by
  induction calls generalizing s with
  | nil => exact hs
  | cons c rest ih =>
    rw [List.mem_cons, not_or] at hv
    obtain ⟨hc, hr⟩ := hv
    obtain ⟨hk, hb⟩ := perform_carried (Ne.symm hc) h hs.status
    exact ih hr hb (hs.congr hk)

/-- A start that succeeds has written the first command of the bootstrap, and that is the only one
under way. Of connections, clients and data the driver knows what it knew before, and so it is like
a new one exactly if it was before, as it is as long as no interrupt has been served. -/
theorem init_restarts {config : Config} {firmware : FirmwareSource} {device : σ}
    {calls : List Call} {t : Session σ}
    (h : perform .init (run calls (fresh config firmware device)).2 = (.ok (), t)) :
    let s := (run calls (fresh config firmware device)).2
    (powerUp s).2.Starts t ∧ t.driver.carried = s.driver.carried ∧
      (t.driver.AsNew ↔ s.driver.AsNew) ∧ (.serviceInterrupt ∉ calls → t.driver.AsNew) := by
  intro s
  have hsound : s.driver.station.Sound :=
    (steps_path calls (fresh config firmware device)).sound (fresh_sound _ _ _)
  have hc : t.driver.carried = s.driver.carried := by
    have hk := (init_carried s).1
    rwa [show init s = _ from h] at hk
  refine ⟨init_starts hsound.free h, hc, Driver.asNew_iff hc, fun hv ↦ ?_⟩
  exact (run_asNew hv rfl (Driver.new_asNew config firmware)).congr hc

end Session

open Session ScriptedChip

def ScriptedChip.midway : Session ScriptedChip :=
  (run (booted [.serviceInterrupt, .connect [65] [112], .serviceInterrupt])
    (start [event .uapStaAssoc ++ [0, 0, 6, 0, 0, 0, 0, 1], response .scan 0 securedNetwork])).2

theorem init_restarts_midway :
    ∃ t, perform .init midway = (.ok (), t) ∧ (powerUp midway).2.Starts t ∧
      t.driver.carried = midway.driver.carried ∧ (t.driver.AsNew ↔ midway.driver.AsNew) := by
  have ho : (perform .init midway).1 = .ok () := by decide +kernel
  have h : perform .init midway = (.ok (), (perform .init midway).2) := Prod.ext ho rfl
  obtain ⟨hs, hc, hn, -⟩ := init_restarts h
  exact ⟨_, h, hs, hc, hn⟩

/-- The attempt is still on, its association still waits for the key, and the client is still
there. -/
theorem init_keeps_midway :
    ∃ t, perform .init midway = (.ok (), t) ∧ t.driver.connection.status = .connecting ∧
      t.driver.channel.staged ≠ none ∧ t.driver.clients.toList.length = 1 ∧ ¬ t.driver.AsNew := by
  have ho : (perform .init midway).1 = .ok () ∧
      (perform .init midway).2.driver.connection.status = .connecting ∧
      (perform .init midway).2.driver.channel.staged ≠ none ∧
      (perform .init midway).2.driver.clients.toList.length = 1 := by decide +kernel
  obtain ⟨ho, hs, hg, hc⟩ := ho
  exact ⟨_, Prod.ext ho rfl, hs, hg, hc, fun h ↦ hg h.staged⟩

end SdioWlan
