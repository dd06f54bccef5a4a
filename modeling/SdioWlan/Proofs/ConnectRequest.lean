import SdioWlan.Proofs.Joining
import SdioWlan.Proofs.PendingScans
import SdioWlan.Proofs.RetryBudget

namespace SdioWlan

open Connection (PendingScan)

namespace Session

variable {σ : Type} [Platform σ]

abbrev Configured : Session σ → Session σ → Prop := Footprint Driver.config fun _ ↦ True

theorem configured_confined : Confined .counters (Configured : Session σ → Session σ → Prop) :=
  footprint_confined (fun _ ↦ rfl) (fun _ _ ↦ trivial) (fun _ _ ↦ trivial) fun _ _ _ ↦ trivial

theorem configured_relays : Relays (Configured : Session σ → Session σ → Prop) where
  transmit := transmit_footprint (fun _ _ ↦ rfl) (fun _ _ ↦ trivial) fun _ _ _ ↦ trivial
  count f role := count_confined configured_confined f role
  deliver _ _ := Footprint.record trivial

end Session

open Session

variable {σ : Type} [Platform σ]

theorem Step.Genuine.configured {m : Step σ} (hg : m.Genuine) : Configured m.before m.after := by
  have hc : Confined .counters (Configured : Session σ → Session σ → Prop) := configured_confined
  refine hg.across (fun _ hs ↦ hs.footprint (fun _ ↦ rfl) fun _ ↦ trivial) ?_ ?_ ?_
  · exact afterPowerUp_confined (hc.mono (Scope.station_le _)) fun _ ↦ Footprint.update fun _ ↦ rfl
  · intro c _ hi hs
    by_cases hd : ∃ payload role, c = .sendData payload role
    · obtain ⟨payload, role, rfl⟩ := hd
      exact configured_relays.sendData payload role
    · exact perform_confined hc (Scope.le_counters _) hi hs fun payload role h ↦
        hd ⟨payload, role, h⟩
  · intro f _
    exact receive_confined hc (fun _ ↦ Scope.le_counters _) fun _ ↦ configured_relays.onData f

theorem Path.config {s t : Session σ} {ms : List (Step σ)} (h : Path s ms t) :
    t.driver.config = s.driver.config :=
  (h.across fun _ hm ↦ (h.genuine hm).configured).kept

namespace Session

/-- Why a request is refused, if it is: the chip has to be ready, the name and the passphrase must
be of lengths that there are, and there must be no connection. -/
def refusal? (s : Session σ) (ssid passphrase : Bytes) : Option DriverError :=
  if s.driver.boot.isReady = false then some .invalidState
  else if ssid = [] ∨ 32 < ssid.length ∨ 64 < passphrase.length then some .invalidParam
  else if s.driver.connection.status = .connected then some .invalidState
  else none

/-- An attempt has started with one scan for the network. -/
structure Begun (config : Config) (ssid passphrase : Bytes) (s t : Session σ) : Prop where
  status : t.driver.connection.status = .connecting
  target : t.driver.connection.target = { ssid, passphrase }
  retries : t.driver.connection.retriesLeft = config.retryLimit
  staged : t.driver.channel.staged = none
  scans : t.driver.connection.scans =
    s.driver.connection.scans.map PendingScan.replace ++ [.attempt]
  one : t.driver.connection.scans.count .attempt = 1
  written : ∃ c : Command, t.link.past = c.written s.driver.base (.ok ()) :: s.link.past ∧
    ScanRequest.ofFrame? c.frame = some (.named ssid config.scanTime)

/-- The scan could not be written, and there is no attempt any more. -/
structure Stranded (e : Errno) (s t : Session σ) : Prop where
  status : t.driver.connection.status = .notConnected
  staged : t.driver.channel.staged = none
  scans : t.driver.connection.scans = s.driver.connection.scans.map PendingScan.replace
  none : .attempt ∉ t.driver.connection.scans
  written : ∃ c : Command, c.id = .scan ∧
    t.link.past = c.written s.driver.base (.error e) :: s.link.past

variable {s : Session σ} {ssid passphrase : Bytes}

def requested (s : Session σ) (ssid passphrase : Bytes) : Session σ :=
  { s with driver := { s.driver.clearStaged with connection := { s.driver.connection with
      status := .connecting
      target := { ssid, passphrase }
      retriesLeft := s.driver.connection.retryLimit
      scans := s.driver.connection.scans.map PendingScan.replace } } }

def withdraw (e : DriverError) : Act σ Unit := do
  setConnection (← view (·.connection.abort))
  throw e

theorem connect_apply (ssid passphrase : Bytes) (s : Session σ) :
    connect ssid passphrase s =
      if s.driver.boot.isReady = false then (.error .invalidState, s)
      else match s.driver.connection.request ssid passphrase with
        | .error e => (.error e, s)
        | .ok r => (tryCatch sendConnectScan withdraw : Act σ Unit)
            { s with driver := { s.driver.clearStaged with connection := r } } := by
  unfold connect
  split
  · rename_i h
    exact ensureReady_bind_of_not_ready h _
  · rename_i h
    rw [ensureReady_bind_of_ready (by simpa using h)]
    simp only [bind_apply, view_apply, liftM_apply]
    cases s.driver.connection.request ssid passphrase <;> rfl

theorem connect_of_refused {e : DriverError} (h : s.refusal? ssid passphrase = some e) :
    connect ssid passphrase s = (.error e, s) := by
  rw [connect_apply]
  unfold refusal? at h
  split at h
  · rename_i hb
    cases h
    rw [if_pos hb]
  rename_i hb
  rw [if_neg hb]
  split at h
  · rename_i hp
    cases h
    have hr : s.driver.connection.request ssid passphrase = .error .invalidParam := if_pos hp
    rw [hr]
  split at h
  · rename_i hp hc
    cases h
    have hr : s.driver.connection.request ssid passphrase = .error .invalidState :=
      (if_neg hp).trans (if_pos hc)
    rw [hr]
  · cases h

theorem connect_of_accepted (h : s.refusal? ssid passphrase = none) :
    (ssid ≠ [] ∧ ssid.length ≤ Dot11.maxSsid) ∧ connect ssid passphrase s =
      (tryCatch sendConnectScan withdraw : Act σ Unit) (s.requested ssid passphrase) := by
  rw [connect_apply]
  unfold refusal? at h
  split at h
  · cases h
  split at h
  · cases h
  split at h
  · cases h
  rename_i hb hp hc
  obtain ⟨hn, hl⟩ := not_or.mp hp
  have hr : s.driver.connection.request ssid passphrase =
      .ok (s.requested ssid passphrase).driver.connection := (if_neg hp).trans (if_neg hc)
  refine ⟨⟨hn, Nat.not_lt.mp fun hg ↦ hl (.inl hg)⟩, ?_⟩
  rw [if_neg hb, hr]
  rfl

/-- An accepted request is one write of the scan, and the outcome is what the bus makes of it. -/
theorem connect_writes (hf : s.driver.channel.held = false)
    (h : s.refusal? ssid passphrase = none) :
    (connect ssid passphrase s).1 = .ok () ∧
      Begun { s.driver.config with retryLimit := s.driver.connection.retryLimit } ssid passphrase s
        (connect ssid passphrase s).2 ∨
    ∃ e, (connect ssid passphrase s).1 = .error (.transfer e) ∧
      Stranded e s (connect ssid passphrase s).2 := by
  obtain ⟨⟨hn, hl⟩, hc⟩ := connect_of_accepted h
  generalize hu : s.requested ssid passphrase = u at hc
  have hd : u.driver.channel.held = false := by rw [← hu]; exact hf
  have ha : PendingScan.attempt ∉ s.driver.connection.scans.map PendingScan.replace :=
    fun hm ↦ SdioWlan.PendingScan.ne_attempt_of_replaced _ hm rfl
  obtain ⟨c, hi, hr, hw⟩ := sendConnectScan_apply (s := u) (by rw [← hu]; exact hn)
    (by rw [← hu]; exact hl)
  obtain ⟨o, device, ho⟩ := sendCommand_of_not_held hd c
  rw [hc]
  simp only [tryCatch_apply, hw, ho]
  subst hu
  cases o with
  | ok _ =>
    refine .inl ⟨rfl, ?_⟩
    rw [Driver.sent_scan hi]
    refine ⟨rfl, rfl, rfl, rfl, rfl, ?_, c, rfl, hr⟩
    have hn : (s.driver.connection.scans.map PendingScan.replace ++
        [PendingScan.attempt]).count .attempt = 1 := by
      rw [List.count_append, List.count_eq_zero.mpr ha]
      rfl
    exact hn
  | error e =>
    refine .inr ⟨e, rfl, ?_⟩
    rw [Driver.sent_of_not (.inl (by simp))]
    exact ⟨rfl, rfl, rfl, ha, c, hi, rfl⟩

/-- A request to connect is all or nothing, in whatever state a run has left the driver. One that is
refused has done nothing at all, and tells why. One that goes through has written one scan for the
network, on a chip that is ready and not connected, and has put the attempt in place of any other.
Otherwise the scan could not be written, and no attempt is left. Nobody is told of any of this. -/
theorem connect_all_or_nothing (config : Config) (firmware : FirmwareSource) (device : σ)
    (calls : List Call) (ssid passphrase : Bytes) :
    let s := (run calls (fresh config firmware device)).2
    let r := perform (.connect ssid passphrase) s
    match s.refusal? ssid passphrase with
    | some e => r = (.error e, s)
    | none => r.1 = .ok () ∧ Begun config ssid passphrase s r.2 ∨
        ∃ e, r.1 = .error (.transfer e) ∧ Stranded e s r.2 := by
  intro s r
  have hp := steps_path calls (fresh config firmware device)
  have hf := fresh_sound config firmware device
  have hs : s.driver.station.Sound := hp.sound hf
  have hc : s.driver.config = config := hp.config
  have hl : s.driver.connection.retryLimit = config.retryLimit := hp.retryLimit hf
  cases h : s.refusal? ssid passphrase with
  | some e => exact connect_of_refused h
  | none =>
    have hw := connect_writes hs.free h
    rwa [hc, hl] at hw

end Session

end SdioWlan
