import SdioWlan.Proofs.Station.Inversion

namespace SdioWlan

open Connection (Status)

theorem Connection.attemptFailed_status (c : Connection) :
    c.attemptFailed.2.status =
      if c.attemptFailed.1 = .rescan then .connecting else .notConnected := by
  unfold attemptFailed
  split
  · rename_i h
    simpa using h.1
  · simp

theorem Connection.status_of_rescan {c : Connection} (h : c.attemptFailed.1 = .rescan) :
    c.status = .connecting := by
  unfold attemptFailed at h
  split at h
  · rename_i hc
    exact hc.1
  · cases h

@[simp] theorem Connection.scanAnswered_status (c : Connection) :
    c.scanAnswered.2.status = c.status := by
  unfold scanAnswered
  split <;> rfl

@[simp] theorem Connection.scanAnswered_target (c : Connection) :
    c.scanAnswered.2.target = c.target := by
  unfold scanAnswered
  split <;> rfl

@[simp] theorem Connection.scanAnswered_retriesLeft (c : Connection) :
    c.scanAnswered.2.retriesLeft = c.retriesLeft := by
  unfold scanAnswered
  split <;> rfl

theorem Connection.status_of_connect {c : Connection} (h : c.scanAnswered.1 = .connect) :
    c.status = .connecting := by
  unfold scanAnswered at h
  split at h
  · cases h
  · split at h
    · split at h
      · assumption
      · cases h
    · cases h
    · cases h

theorem Connection.status_of_request {c r : Connection} {ssid passphrase : Bytes}
    (h : c.request ssid passphrase = .ok r) :
    c.status ≠ .connected ∧ r = { c with
      status := .connecting
      target := { ssid, passphrase }
      retriesLeft := c.retryLimit
      scans := c.scans.map PendingScan.replace } := by
  unfold request at h
  split at h
  · cases h
  split at h
  · cases h
  · rename_i hc
    cases h
    exact ⟨hc, rfl⟩

namespace Station

variable {a b : Station} {o : Except DriverError Unit} {l : List Action} {why : ConnectFailure}

theorem Scans.held (h : a.Scans o l b) : b.held = a.held := by cases h <;> rfl

theorem Scans.staged (h : a.Scans o l b) : b.staged = a.staged := by cases h <;> rfl

theorem Scans.status (h : a.Scans o l b) : b.connection.status = a.connection.status := by
  cases h <;> rfl

theorem Fails.held (h : a.Fails why l b) : b.held = a.held := by
  cases h with
  | gaveUp h => rfl
  | retried h hs => exact hs.held
  | stranded h hs => exact hs.held

theorem Fails.staged (h : a.Fails why l b) : b.staged = none := by
  cases h with
  | gaveUp h => rfl
  | retried h hs => exact hs.staged
  | stranded h hs => exact hs.staged

theorem Joins.held {n : Bss} (h : a.Joins n o l b) : b.held = a.held := by cases h <;> rfl

theorem Joins.status {n : Bss} (h : a.Joins n o l b) :
    b.connection.status = a.connection.status := by
  cases h <;> rfl

section Observed

variable {β : Type} {g : Action → Option β}

theorem Scans.filterMap_eq_nil (h : a.Scans o l b)
    (hw : ∀ c : Command, c.id = .scan → ∀ base w, g (c.written base w) = none) :
    l.filterMap g = [] := by
  cases h with
  | unwritten => rfl
  | refused hc | sent hc => exact List.filterMap_cons_none (hw _ hc _ _)

theorem Fails.filterMap_eq_nil (h : a.Fails why l b)
    (hw : ∀ c : Command, c.id = .scan → ∀ base w, g (c.written base w) = none)
    (hr : ∀ r, g (.report (.connected r)) = none) : l.filterMap g = [] := by
  cases h with
  | gaveUp h => exact List.filterMap_cons_none (hr _)
  | retried h hs => exact hs.filterMap_eq_nil hw
  | stranded h hs => exact (List.filterMap_cons_none (hr _)).trans (hs.filterMap_eq_nil hw)

theorem Joins.filterMap_eq_nil {n : Bss} (h : a.Joins n o l b)
    (hw : ∀ (c : Command) base w, g (c.written base w) = none) : l.filterMap g = [] := by
  cases h with
  | unwritten => rfl
  | _ => exact List.filterMap_cons_none (hw _ _ _)

end Observed

theorem encode_of_associationCommand {t : Connection.Target} {n : Bss} {c : Command}
    (h : associationCommand t n = .ok c) :
    ∃ payload, Command.encode .associate .get payload ⟨n.bssid, n.capability⟩ = .ok c := by
  unfold associationCommand at h
  cases hb : Params.association t.ssid n.channel n.security with
  | error e => rw [hb] at h; cases h
  | ok block =>
    rw [hb] at h
    cases hs : (Params.addSecurity block n.security n.vendor n.rsn).1 with
    | error e => simp only [bind, Except.bind, hs] at h; cases h
    | ok _ =>
      simp only [bind, Except.bind, hs] at h
      exact ⟨_, h⟩

theorem associationCommand_id {t : Connection.Target} {n : Bss} {c : Command}
    (h : associationCommand t n = .ok c) : c.id = .associate := by
  obtain ⟨payload, he⟩ := encode_of_associationCommand h
  exact (Command.encode_id he).1

theorem keyCommand_id {t : Connection.Target} {n : Bss} {c : Command}
    (h : keyCommand t n = .ok c) : c.id = .supplicantPmk := by
  unfold keyCommand at h
  cases hb : Params.masterKey t.ssid n.bssid t.passphrase with
  | error e => rw [hb] at h; cases h
  | ok block =>
    rw [hb] at h
    have he : Command.encode .supplicantPmk .set block.bytes ⟨n.bssid, n.capability⟩ = .ok c := h
    exact (Command.encode_id he).1

theorem keyCommand_known {t : Connection.Target} {n : Bss} {c : Command}
    (h : keyCommand t n = .ok c) : c.id ∈ CommandId.known := by
  rw [keyCommand_id h]
  decide

theorem associationCommand_known {t : Connection.Target} {n : Bss} {c : Command}
    (h : associationCommand t n = .ok c) : c.id ∈ CommandId.known := by
  rw [associationCommand_id h]
  decide

theorem Joins.associates {n : Bss} (h : a.Joins n o l b) (ha : ∀ c ∈ a.staged, c.id = .associate) :
    ∀ c ∈ b.staged, c.id = .associate := by
  cases h with
  | staged hn hk hc base =>
    intro c hm
    cases hm
    exact associationCommand_id hc
  | unwritten | keyRefused | keyOnly | refused | sent => exact ha

theorem sound_of_none (hf : b.held = false) (hs : b.staged = none) : b.Sound :=
  ⟨hf, by simp [hs], by simp [hs]⟩

end Station

theorem Reaction.sound {m : Message} {a b : Station} {l : List Action} (h : Reaction m a l b)
    (ha : a.Sound) : b.Sound := by
  cases h with
  | idle | unheeded => exact ha
  | scanned =>
    refine ⟨ha.free, ha.associates, ?_⟩
    simpa [Station.answered, Station.move] using ha.heeded
  | scanFailed _ hf | rejected _ _ hf =>
    exact Station.sound_of_none (hf.held.trans ha.free) hf.staged
  | unflushed _ _ _ hf => exact Station.sound_of_none (hf.held.trans ha.free) hf.staged
  | unjoined _ _ hj hf =>
    exact Station.sound_of_none (hf.held.trans (hj.held.trans ha.free)) hf.staged
  | joined h _ hj =>
    refine ⟨hj.held.trans ha.free, hj.associates ha.associates, fun _ ↦ ?_⟩
    rw [hj.status]
    simp [Station.answered, Station.move, Connection.status_of_connect h]
  | flushed | shutDown | deauthenticated => exact Station.sound_of_none ha.free rfl
  | released => exact ⟨ha.free, ha.associates, by simp [Station.move, Connection.portReleased]⟩

theorem Deed.sound {ready : Bool} {c : Call} {o : Except DriverError Unit} {a b : Station}
    {l : List Action} (h : Deed ready c o a l b) (ha : a.Sound) : b.Sound := by
  cases h with
  | idle | refused => exact ha
  | scanned _ _ hs =>
    exact ⟨hs.held.trans ha.free, by rw [hs.staged]; exact ha.associates,
      by rw [hs.staged, hs.status]; exact ha.heeded⟩
  | connected _ _ hs => exact Station.sound_of_none (hs.held.trans ha.free) hs.staged
  | aborted _ _ hs => exact Station.sound_of_none (hs.held.trans ha.free) hs.staged

variable {σ : Type}

theorem Step.Effect.sound {m : Step σ} (h : m.Effect) (ha : m.before.driver.station.Sound) :
    m.after.driver.station.Sound := by
  cases h with
  | bus _ hs | powered _ hs => rwa [hs]
  | call _ hd => exact hd.sound ha
  | frame _ hr => exact hr.sound ha

variable [Platform σ]

theorem Path.sound {s t : Session σ} {ms : List (Step σ)} (h : Path s ms t)
    (hs : s.driver.station.Sound) : t.driver.station.Sound := by
  refine h.invariant (P := fun s ↦ s.driver.station.Sound) (fun m hg ha ↦ ?_) hs
  exact (hg.effect ha).1.sound ha

namespace Session

theorem fresh_sound {σ : Type} (config : Config) (firmware : FirmwareSource) (device : σ) :
    (fresh config firmware device).driver.station.Sound := Station.sound_of_none rfl rfl

/-- The steps of a run from the start, up to one of them and after it. -/
theorem steps_around {config : Config} {firmware : FirmwareSource} {device : σ}
    {calls : List Call} {pre post : List (Step σ)} {m : Step σ}
    (h : steps calls (fresh config firmware device) = pre ++ m :: post) :
    Path (fresh config firmware device) pre m.before ∧ m.Genuine ∧
      m.before.driver.station.Sound := by
  have hp := steps_path calls (fresh config firmware device)
  rw [h] at hp
  obtain ⟨h₁, hg, -⟩ := hp.around
  exact ⟨h₁, hg, h₁.sound (fresh_sound _ _ _)⟩

end Session

end SdioWlan
