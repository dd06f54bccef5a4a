import SdioWlan.Proofs.CommandQueue
import SdioWlan.Proofs.Staging

namespace SdioWlan

namespace Action

def failures (l : List Action) : List ConnectFailure :=
  (l.filterMap connectOutcome?).filterMap fun
    | .error why => some why
    | .ok () => none

def scanCount (l : List Action) : Nat := (l.filterMap command?).countP (·.1 = .scan)

def JoinsNothing (l : List Action) : Prop :=
  ∀ w ∈ l.filterMap command?, w.1 ≠ .supplicantPmk ∧ w.1 ≠ .associate

theorem failures_of_silent {l : List Action} (h : l.filterMap connectOutcome? = []) :
    failures l = [] := by
  rw [failures, h]
  rfl

theorem connects_of_calm {l : List Action} (h : ∀ x ∈ l, x.Calm) :
    ∀ w ∈ l.filterMap command?, w.1.connects = false := by
  intro w hw
  obtain ⟨x, hx, hc⟩ := List.mem_filterMap.mp hw
  have hcalm := h x hx
  cases x with
  | access a =>
    simp only [Calm, concernsStation, hc] at hcalm
    exact hcalm
  | stack c => cases hc
  | report r => cases hc

theorem scanCount_of_calm {l : List Action} (h : ∀ x ∈ l, x.Calm) : scanCount l = 0 := by
  rw [scanCount, List.countP_eq_zero]
  intro w hw hs
  have hc := connects_of_calm h w hw
  rw [of_decide_eq_true hs] at hc
  cases hc

theorem joinsNothing_of_calm {l : List Action} (h : ∀ x ∈ l, x.Calm) : JoinsNothing l := by
  intro w hw
  have hc := connects_of_calm h w hw
  constructor <;>
  · intro hs
    rw [hs] at hc
    cases hc

end Action

open SdioWlan.Action

theorem Connection.attemptFailed_retryLimit (c : Connection) :
    c.attemptFailed.2.retryLimit = c.retryLimit := by
  unfold attemptFailed
  split <;> rfl

theorem Connection.scanAnswered_retryLimit (c : Connection) :
    c.scanAnswered.2.retryLimit = c.retryLimit := by
  unfold scanAnswered
  split <;> rfl

namespace Station

/-- How many more scans the attempt under way may cost. -/
def budget (a : Station) : Nat :=
  if a.connection.status = .connecting then a.connection.retriesLeft.toNat else 0

structure Finished (a : Station) : Prop where
  idle : a.connection.status ≠ .connecting
  unstaged : a.staged = none

/-- Scans that are written before an attempt is over or after it has begun are its own. -/
def attemptScans (a : Station) (l : List Action) (b : Station) : Nat :=
  if a.connection.status = .connecting ∨ b.connection.status = .connecting then scanCount l else 0

/-- What everything but a new request makes of an attempt. -/
structure Spends (a : Station) (l : List Action) (b : Station) : Prop where
  scans : attemptScans a l b + b.budget ≤ a.budget
  failures : failures l = [] ∨ ∃ why k, l = .report (.connected (.error why)) :: k ∧
    Action.failures k = [] ∧ b.Finished
  finished : a.Finished → b.Finished ∧ Action.failures l = [] ∧ JoinsNothing l

variable {a b : Station} {o : Except DriverError Unit} {l : List Action} {why : ConnectFailure}

theorem budget_of_idle (h : a.connection.status ≠ .connecting) : a.budget = 0 := if_neg h

theorem attemptScans_le : attemptScans a l b ≤ scanCount l := by
  unfold attemptScans
  split
  · exact Nat.le_refl _
  · exact Nat.zero_le _

theorem attemptScans_of_idle (ha : a.connection.status ≠ .connecting)
    (hb : b.connection.status ≠ .connecting) : attemptScans a l b = 0 := if_neg (by simp [ha, hb])

theorem Scans.connection (h : a.Scans o l b) :
    b.connection.retryLimit = a.connection.retryLimit ∧
      b.connection.retriesLeft = a.connection.retriesLeft := by
  cases h <;> exact ⟨rfl, rfl⟩

theorem Scans.scanCount_le (h : a.Scans o l b) : scanCount l ≤ 1 := by
  cases h with
  | unwritten => exact Nat.zero_le 1
  | refused hc | sent hc => simp [scanCount, Command.command?_written (scan_known hc), hc]

theorem Scans.joinsNothing (h : a.Scans o l b) : JoinsNothing l := by
  cases h with
  | unwritten => exact fun w hw ↦ absurd hw List.not_mem_nil
  | refused hc | sent hc => simp [JoinsNothing, Command.command?_written (scan_known hc), hc]

theorem Joins.scanCount {n : Bss} (h : a.Joins n o l b) : scanCount l = 0 := by
  cases h with
  | unwritten => rfl
  | keyRefused hk | keyOnly hk | staged _ hk =>
    simp [Action.scanCount, Command.command?_written (keyCommand_known hk), keyCommand_id hk]
  | refused _ hc | sent _ hc =>
    simp [Action.scanCount, Command.command?_written (associationCommand_known hc),
      associationCommand_id hc]

theorem Joins.budget {n : Bss} (h : a.Joins n o l b) : b.budget = a.budget := by
  cases h <;> rfl

theorem Joins.retryLimit {n : Bss} (h : a.Joins n o l b) :
    b.connection.retryLimit = a.connection.retryLimit := by
  cases h <;> rfl

theorem answered_budget : a.answered.budget = a.budget := by
  simp [budget, answered, move]

/-- Another scan is paid for with a retry. -/
theorem budget_of_rescan (h : a.connection.attemptFailed.1 = .rescan) :
    (a.forget.move a.connection.attemptFailed.2).budget + 1 = a.budget := by
  unfold Connection.attemptFailed at h ⊢
  split at h
  · next hc =>
    obtain ⟨hs, hr⟩ := hc
    have hr' : 1 ≤ a.connection.retriesLeft.toNat := hr
    simp only [budget, move, hs, hr, and_self, if_true]
    rw [UInt8.toNat_sub_of_le _ _ hr]
    exact Nat.sub_add_cancel hr'
  · cases h

theorem Fails.budget (h : a.Fails why l b) : scanCount l + b.budget ≤ a.budget := by
  cases h with
  | gaveUp h =>
    have hs : (a.forget.move a.connection.attemptFailed.2).connection.status ≠ .connecting := by
      simp [move, Connection.attemptFailed_status, h]
    rw [budget_of_idle hs]
    exact Nat.zero_le _
  | retried h hs =>
    have hb : b.budget = (a.forget.move a.connection.attemptFailed.2).budget := by
      simp only [Station.budget, hs.status, hs.connection.2]
    have hc := hs.scanCount_le
    have hp := budget_of_rescan h
    omega
  | @stranded e k b h hs =>
    have hc : scanCount (.report (.connected (.error (.command e))) :: k) ≤ 1 := hs.scanCount_le
    have hp := budget_of_rescan h
    have hb : (b.move b.connection.abort).budget = 0 :=
      budget_of_idle (by simp [move, Connection.abort])
    omega

theorem Fails.failures (h : a.Fails why l b) : Action.failures l = [] ∨
    ∃ why k, l = .report (.connected (.error why)) :: k ∧ Action.failures k = [] ∧ b.Finished := by
  have hs := h.staged
  cases h with
  | gaveUp h =>
    refine .inr ⟨why, [], rfl, rfl, ?_, hs⟩
    simp [move, Connection.attemptFailed_status, h]
  | retried h hs => exact .inl (failures_of_silent hs.connectOutcomes)
  | @stranded e k b h hk =>
    exact .inr ⟨.command e, k, rfl, failures_of_silent hk.connectOutcomes,
      by simp [move, Connection.abort], hs⟩

theorem Fails.retryLimit (h : a.Fails why l b) :
    b.connection.retryLimit = a.connection.retryLimit := by
  have hl : (a.forget.move a.connection.attemptFailed.2).connection.retryLimit =
      a.connection.retryLimit := Connection.attemptFailed_retryLimit _
  cases h with
  | gaveUp => exact hl
  | retried _ hs | stranded _ hs => exact hs.connection.1.trans hl

/-- Work that leaves the attempt alone costs it nothing. -/
theorem Spends.of_same (hs : b.connection.status = a.connection.status)
    (hr : b.connection.retriesLeft = a.connection.retriesLeft) (hg : b.staged = a.staged)
    (hl : ∀ x ∈ l, x.Calm) : a.Spends l b where
  scans := by
    have hc := scanCount_of_calm hl
    have ha := attemptScans_le (a := a) (b := b) (l := l)
    have hb : b.budget = a.budget := by simp only [Station.budget, hs, hr]
    omega
  failures := .inl (failures_of_silent (connectOutcomes_of_calm hl))
  finished h := ⟨⟨hs ▸ h.idle, hg.trans h.unstaged⟩,
    failures_of_silent (connectOutcomes_of_calm hl), joinsNothing_of_calm hl⟩

/-- Work that ends what there was of an attempt without a failure. -/
theorem Spends.of_end (hb : b.connection.status ≠ .connecting)
    (hg : a.Finished → b.staged = none) (hc : scanCount l = 0) (hj : JoinsNothing l)
    (hf : Action.failures l = []) : a.Spends l b where
  scans := by
    have ha := attemptScans_le (a := a) (b := b) (l := l)
    have hb := budget_of_idle hb
    omega
  failures := .inl hf
  finished h := ⟨⟨hb, hg h⟩, hf, hj⟩

/-- A failure is paid for by what fails: an attempt, or an association that was kept back. What was
written before it, `k`, was no scan. -/
theorem Spends.of_fails {c : Station} {k : List Action} (hn : ¬ a.Finished)
    (hb : c.budget ≤ a.budget) (hk : scanCount k = 0) (ho : k.filterMap connectOutcome? = [])
    (hf : c.Fails why l b) : a.Spends (l ++ k) b where
  scans := by
    have ha := attemptScans_le (a := a) (b := b) (l := l ++ k)
    have hs : scanCount (l ++ k) = scanCount l + scanCount k := by
      simp [scanCount, List.filterMap_append, List.countP_append]
    have hc := hf.budget
    omega
  failures := by
    have hs (x : List Action) : Action.failures (x ++ k) = Action.failures x := by
      simp [Action.failures, List.filterMap_append, ho]
    rcases hf.failures with h | ⟨why, x, rfl, hx, hfin⟩
    · exact .inl ((hs l).trans h)
    · exact .inr ⟨why, x ++ k, rfl, (hs x).trans hx, hfin⟩
  finished h := absurd h hn

theorem not_finished_of_status (h : a.connection.status = .connecting) : ¬ a.Finished :=
  fun hf ↦ hf.idle h

theorem not_finished_of_staged {c : Command} (h : a.staged = some c) : ¬ a.Finished := fun hf ↦ by
  have hn := hf.unstaged
  rw [h] at hn
  cases hn

theorem Sound.scanCount_written (ha : a.Sound) {c : Command} (h : a.staged = some c)
    (base : UInt32) (w : Except Errno Unit) : Action.scanCount [c.written base w] = 0 := by
  have hi : c.id = .associate := ha.associates c h
  have hk : c.id ∈ CommandId.known := by
    rw [hi]
    decide
  simp [Action.scanCount, Command.command?_written hk, hi]

end Station

open Station

theorem Reaction.spends {msg : Message} {a b : Station} {l : List Action}
    (h : Reaction msg a l b) (ha : a.Sound) : a.Spends l b := by
  cases h with
  | idle _ hl => exact .of_same rfl rfl rfl hl
  | scanned _ hl =>
    refine .of_same ?_ ?_ rfl (calm_of_scanResult hl)
    · exact Connection.scanAnswered_status _
    · exact Connection.scanAnswered_retriesLeft _
  | scanFailed hv hf =>
    have hn := not_finished_of_status (Connection.status_of_connect hv)
    simpa using Spends.of_fails (k := []) hn (Nat.le_of_eq answered_budget) rfl rfl hf
  | joined hv _ hj =>
    have hn := not_finished_of_status (Connection.status_of_connect hv)
    refine ⟨?_, .inl (failures_of_silent hj.connectOutcomes), fun h ↦ absurd h hn⟩
    have hs := attemptScans_le (a := a) (b := b) (l := l)
    have hb : b.budget = a.budget := hj.budget.trans answered_budget
    have hc := hj.scanCount
    omega
  | unjoined hv _ hj hf =>
    have hn := not_finished_of_status (Connection.status_of_connect hv)
    exact .of_fails hn (Nat.le_of_eq (hj.budget.trans answered_budget)) hj.scanCount
      hj.connectOutcomes hf
  | unheeded => exact .of_same rfl rfl rfl (by simp)
  | rejected hc _ hf =>
    simpa using Spends.of_fails (k := []) (not_finished_of_status hc) (Nat.le_refl _) rfl rfl hf
  | @flushed body _ c hs base =>
    refine ⟨?_, .inl rfl, fun h ↦ absurd h (not_finished_of_staged hs)⟩
    have hc := ha.scanCount_written hs base (.ok ())
    have hl := attemptScans_le (a := a) (b := a.forget) (l := [c.written base (.ok ())])
    have hb : a.forget.budget = a.budget := rfl
    omega
  | @unflushed body _ _ c l hs base e hf =>
    exact .of_fails (c := a.forget) (not_finished_of_staged hs) (Nat.le_refl _)
      (ha.scanCount_written hs base (.error e)) rfl hf
  | shutDown hl =>
    exact .of_end (by simp [move, Connection.reset, Connection.new]) (fun _ ↦ rfl)
      (scanCount_of_calm hl) (joinsNothing_of_calm hl)
      (failures_of_silent (connectOutcomes_of_calm hl))
  | deauthenticated =>
    exact .of_end (by simp [move, Connection.deauthenticated]) (fun _ ↦ rfl) rfl
      (by simp [JoinsNothing, command?]) rfl
  | released =>
    exact .of_end (by simp [move, Connection.portReleased]) (fun h ↦ h.unstaged) rfl
      (by simp [JoinsNothing, command?]) rfl

theorem Deed.spends {ready : Bool} {c : Call} {o : Except DriverError Unit} {a b : Station}
    {l : List Action} (h : Deed ready c o a l b)
    (hn : ∀ ssid passphrase r, c = .connect ssid passphrase → ready = true →
      a.connection.request ssid passphrase ≠ .ok r) : a.Spends l b := by
  cases h with
  | idle _ hl => exact .of_same rfl rfl rfl hl
  | scanned _ hc hs =>
    have hb : b.connection.status ≠ .connecting := fun h ↦ hc (hs.status.symm.trans h)
    refine ⟨?_, .inl (failures_of_silent hs.connectOutcomes), fun h ↦ ⟨⟨hb, ?_⟩, ?_, ?_⟩⟩
    · rw [attemptScans_of_idle hc hb, budget_of_idle hb]
      exact Nat.zero_le _
    · exact hs.staged.trans h.unstaged
    · exact failures_of_silent hs.connectOutcomes
    · exact hs.joinsNothing
  | refused => exact .of_same rfl rfl rfl (by simp)
  | connected hr hq | aborted hr hq => exact absurd hq (hn _ _ _ rfl hr)

theorem Reaction.retryLimit {msg : Message} {a b : Station} {l : List Action}
    (h : Reaction msg a l b) : b.connection.retryLimit = a.connection.retryLimit := by
  have ha : a.answered.connection.retryLimit = a.connection.retryLimit :=
    Connection.scanAnswered_retryLimit _
  cases h with
  | scanned => exact ha
  | scanFailed _ hf => exact hf.retryLimit.trans ha
  | joined _ _ hj => exact hj.retryLimit.trans ha
  | unjoined _ _ hj hf => exact hf.retryLimit.trans (hj.retryLimit.trans ha)
  | rejected _ _ hf | unflushed _ _ _ hf => exact hf.retryLimit
  | idle | unheeded | flushed | shutDown | deauthenticated | released => rfl

theorem Deed.retryLimit {ready : Bool} {c : Call} {o : Except DriverError Unit} {a b : Station}
    {l : List Action} (h : Deed ready c o a l b) :
    b.connection.retryLimit = a.connection.retryLimit := by
  have hr {ssid passphrase : Bytes} {r : Connection}
      (h : a.connection.request ssid passphrase = .ok r) :
      r.retryLimit = a.connection.retryLimit := by
    rw [(Connection.status_of_request h).2]
  cases h with
  | idle | refused => rfl
  | scanned _ _ hs => exact hs.connection.1
  | connected _ hq hs | aborted _ hq hs => exact hs.connection.1.trans (hr hq)

namespace Step

variable {σ : Type} {m : Step σ}

def attemptScans (m : Step σ) : List (CommandId × Bytes × Except Errno Unit) :=
  if m.before.status = .connecting ∨ m.after.status = .connecting then
    m.commands.filter (·.1 = .scan)
  else []

def failures (m : Step σ) : List ConnectFailure := Action.failures m.actions

def Connects (m : Step σ) : Prop :=
  ∃ ssid passphrase, m.trigger = .call (.connect ssid passphrase) ∧ m.outcome = .ok ()

def Finishes (m : Step σ) : Prop := m.after.driver.station.Finished

structure Spends (m : Step σ) : Prop where
  scans : m.attemptScans.length + m.after.driver.station.budget ≤ m.before.driver.station.budget
  failures : m.failures = [] ∨ ∃ why k, m.actions = .report (.connected (.error why)) :: k ∧
    Action.failures k = [] ∧ m.Finishes
  finished : m.before.driver.station.Finished → m.Finishes ∧ m.failures = [] ∧
    ∀ w ∈ m.commands, w.1 ≠ .supplicantPmk ∧ w.1 ≠ .associate

theorem failures_of_report {why : ConnectFailure} {k : List Action}
    (h : m.actions = .report (.connected (.error why)) :: k) (hk : Action.failures k = []) :
    m.failures = [why] := by
  rw [failures, h]
  exact congrArg (why :: ·) hk

/-- A failure is the last thing that a step reports. -/
theorem Spends.reported (h : m.Spends) {why : ConnectFailure} (hw : why ∈ m.failures) :
    m.actions.head? = some (.report (.connected (.error why))) ∧ m.Finishes := by
  rcases h.failures with hnone | ⟨why', k, hk, hnone, hfin⟩
  · rw [hnone] at hw
    cases hw
  · rw [failures_of_report hk hnone, List.mem_singleton] at hw
    rw [hk, hw]
    exact ⟨rfl, hfin⟩

theorem commands_of_trigger (h : m.trigger ≠ .bus) :
    m.commands = m.actions.filterMap command? := if_neg h

theorem length_attemptScans (h : m.trigger ≠ .bus) : m.attemptScans.length =
    Station.attemptScans m.before.driver.station m.actions m.after.driver.station := by
  rw [attemptScans, commands_of_trigger h, apply_ite List.length, ← List.countP_eq_length_filter]
  rfl

theorem spends_of_station (h : m.trigger ≠ .bus)
    (hs : m.before.driver.station.Spends m.actions m.after.driver.station) : m.Spends := by
  refine ⟨?_, hs.failures, ?_⟩
  · rw [length_attemptScans h]
    exact hs.scans
  · rw [commands_of_trigger h]
    exact hs.finished

theorem Effect.spends (h : m.Effect) (hs : m.before.driver.station.Sound)
    (hn : ¬ m.PassesRequest) : m.Spends := by
  cases h with
  | bus ht hb hl =>
    have hc : m.commands = [] := if_pos ht
    have hf : m.failures = [] := failures_of_silent (connectOutcomes_of_access hl)
    refine ⟨?_, .inl hf, fun h ↦ ⟨?_, hf, by simp [hc]⟩⟩
    · simp [attemptScans, hc, hb]
    · rwa [Finishes, hb]
  | powered ht hb hl =>
    refine spends_of_station (by simp [ht]) ?_
    rw [hb]
    exact .of_same rfl rfl rfl hl
  | call ht hd =>
    refine spends_of_station (by simp [ht]) (hd.spends ?_)
    rintro ssid passphrase r rfl hr hq
    exact hn ⟨ssid, passphrase, r, ht, hr, hq⟩
  | frame ht hr => exact spends_of_station (by simp [ht]) (hr.spends hs)

theorem Effect.retryLimit (h : m.Effect) :
    m.after.driver.connection.retryLimit = m.before.driver.connection.retryLimit := by
  cases h with
  | bus _ hb | powered _ hb => exact congrArg (·.connection.retryLimit) hb
  | call _ hd => exact hd.retryLimit
  | frame _ hr => exact hr.retryLimit

/-- The request itself costs one scan and sets the retries. -/
theorem Effect.connects (h : m.Effect) (hc : m.Connects) :
    m.attemptScans.length ≤ 1 ∧ m.failures = [] ∧
      m.after.driver.station.budget ≤ m.before.driver.connection.retryLimit.toNat := by
  obtain ⟨ssid, passphrase, ht, ho⟩ := hc
  cases h with
  | bus h | powered h | frame h =>
    rw [ht] at h
    cases h
  | call h hd =>
    rw [ht] at h
    cases h
    rw [ho] at hd
    have hcmd : m.attemptScans.length ≤ scanCount m.actions := by
      rw [length_attemptScans (by simp [ht])]
      exact attemptScans_le
    have hbefore : m.before.driver.connection = m.before.driver.station.connection := rfl
    rw [hbefore]
    have hf : m.failures = Action.failures m.actions := rfl
    rw [hf]
    generalize m.before.driver.station = a, m.actions = l, m.after.driver.station = b at *
    cases hd with
    | idle h => exact absurd rfl (h ssid passphrase)
    | scanned h => exact absurd rfl (h ssid passphrase)
    | connected _ hq hs =>
      refine ⟨Nat.le_trans hcmd hs.scanCount_le, failures_of_silent hs.connectOutcomes, ?_⟩
      have hr := (Connection.status_of_request hq).2
      simp only [budget, hs.connection.2, move, hr]
      split <;> simp

end Step

variable {σ : Type} [Platform σ] {s t : Session σ} {ms : List (Step σ)}

theorem Path.spends (h : Path s ms t) (hs : s.driver.station.Sound)
    (hn : ∀ m ∈ ms, ¬ m.PassesRequest) : ∀ m ∈ ms, m.Spends := by
  induction h with
  | nil => simp
  | cons hg _ ih =>
    have he := (hg.effect hs).1
    have hrest := ih (he.sound hs) fun m hm ↦ hn m (List.mem_cons_of_mem _ hm)
    exact List.forall_mem_cons.mpr ⟨he.spends hs (hn _ List.mem_cons_self), hrest⟩

/-- What each step pays adds up. -/
theorem Path.scans_le (h : Path s ms t) (hm : ∀ m ∈ ms, m.Spends) :
    (ms.flatMap Step.attemptScans).length + t.driver.station.budget ≤
      s.driver.station.budget := by
  induction h with
  | nil => simp
  | cons _ _ ih =>
    obtain ⟨hs, hrest⟩ := List.forall_mem_cons.mp hm
    have ht := ih hrest
    have hc := hs.scans
    rw [List.flatMap_cons, List.length_append]
    omega

/-- What is over stays over. -/
theorem Path.finished (h : Path s ms t) (hm : ∀ m ∈ ms, m.Spends)
    (hs : s.driver.station.Finished) :
    ∀ m ∈ ms, m.Finishes ∧ m.failures = [] ∧
      ∀ w ∈ m.commands, w.1 ≠ .supplicantPmk ∧ w.1 ≠ .associate := by
  induction h with
  | nil => simp
  | cons _ _ ih =>
    obtain ⟨hc, hrest⟩ := List.forall_mem_cons.mp hm
    exact List.forall_mem_cons.mpr ⟨hc.finished hs, ih hrest (hc.finished hs).1⟩

theorem Path.failures_le (h : Path s ms t) (hm : ∀ m ∈ ms, m.Spends) :
    (ms.flatMap Step.failures).length ≤ 1 := by
  induction h with
  | nil => simp
  | @cons m ms t _ hp ih =>
    obtain ⟨hc, hrest⟩ := List.forall_mem_cons.mp hm
    rw [List.flatMap_cons]
    rcases hc.failures with hf | ⟨why, k, hk, hnone, hfin⟩
    · rw [hf]
      exact ih hrest
    · have hlater : ms.flatMap Step.failures = [] :=
        List.flatMap_eq_nil_iff.mpr fun n hn ↦ (hp.finished hrest hfin n hn).2.1
      rw [hlater, Step.failures_of_report hk hnone]
      exact Nat.le_refl 1

theorem Path.retryLimit (h : Path s ms t) (hs : s.driver.station.Sound) :
    t.driver.connection.retryLimit = s.driver.connection.retryLimit := by
  induction h with
  | nil => rfl
  | cons hg _ ih =>
    have he := (hg.effect hs).1
    exact (ih (he.sound hs)).trans he.retryLimit

open Session ScriptedChip

/-- From a request that goes through until the next one, the attempt costs one scan and one more for
each retry, and at most one failure is reported. Once it is, nothing is left of the attempt,
whatever comes in. -/
theorem retry_budget {config : Config} {firmware : FirmwareSource} {device : σ}
    {calls : List Call} {pre during post : List (Step σ)} {first : Step σ}
    (h : steps calls (fresh config firmware device) = pre ++ (first :: during) ++ post)
    (hc : first.Connects) (hn : ∀ m ∈ during, ¬ m.PassesRequest) :
    ((first :: during).flatMap Step.attemptScans).length ≤ config.retryLimit.toNat + 1 ∧
    ((first :: during).flatMap Step.failures).length ≤ 1 ∧
    ∀ before m later, first :: during = before ++ m :: later → ∀ why ∈ m.failures,
      m.actions.head? = some (.report (.connected (.error why))) ∧ m.Finishes ∧
        ∀ n ∈ later, n.Finishes ∧
          ∀ w ∈ n.commands, w.1 ≠ .supplicantPmk ∧ w.1 ≠ .associate := by
  rw [List.append_assoc, List.cons_append] at h
  have hp := steps_path calls (fresh config firmware device)
  rw [h] at hp
  obtain ⟨hpre, hg, hrest⟩ := hp.around
  have hsound : (fresh config firmware device).driver.station.Sound := fresh_sound _ _ _
  have he := (hg.effect (hpre.sound hsound)).1
  obtain ⟨u, hwin, -⟩ := hrest.split
  have hm := hwin.spends (he.sound (hpre.sound hsound)) hn
  obtain ⟨hs, hf, hb⟩ := he.connects hc
  have hlimit : first.before.driver.connection.retryLimit = config.retryLimit :=
    hpre.retryLimit hsound
  rw [hlimit] at hb
  refine ⟨?_, ?_, fun before m later hsplit why hw ↦ ?_⟩
  · have hscans := hwin.scans_le hm
    rw [List.flatMap_cons, List.length_append]
    omega
  · rw [List.flatMap_cons, hf]
    exact hwin.failures_le hm
  · cases before with
    | nil =>
      cases hsplit
      rw [hf] at hw
      cases hw
    | cons x before =>
      obtain ⟨-, rfl⟩ := List.cons.inj hsplit
      obtain ⟨-, -, hlater⟩ := hwin.around
      have hl : ∀ n ∈ later, n.Spends := fun n hn ↦ hm n (by simp [hn])
      obtain ⟨hhead, hfin⟩ := (hm m (by simp)).reported hw
      refine ⟨hhead, hfin, fun n hn ↦ ?_⟩
      obtain ⟨hfn, -, hjn⟩ := hlater.finished hl hfin n hn
      exact ⟨hfn, hjn⟩

def ScriptedChip.sought : List (Step ScriptedChip) :=
  steps (booted [.connect [66] [112], .serviceInterrupt, .serviceInterrupt])
    (.fresh { retryLimit := 1 } (.image [165, 165])
      ⟨bootFrames ++ List.replicate 2 (response .scan 0 securedNetwork)⟩)

theorem retry_budget_sought :
    ∃ pre first during, sought = pre ++ (first :: during) ++ [] ∧ first.Connects ∧
      (∀ m ∈ during, ¬ m.PassesRequest) ∧
      ((first :: during).flatMap Step.attemptScans).length ≤ 1 + 1 ∧
      ∃ before m later, first :: during = before ++ m :: later ∧ .notFound ∈ m.failures ∧
        m.actions.head? = some (.report (.connected (.error .notFound))) ∧ m.Finishes ∧
        ∀ n ∈ later, n.Finishes ∧
          ∀ w ∈ n.commands, w.1 ≠ .supplicantPmk ∧ w.1 ≠ .associate := by
  obtain ⟨pre, first, during, h, hpre, hf⟩ := exists_step sought 18
    (fun m ↦ (m.trigger, m.outcome)) (a := (.call (.connect [66] [112]), .ok ()))
    (by decide +kernel)
  simp only [Prod.mk.injEq] at hf
  have hc : first.Connects := ⟨_, _, hf⟩
  have hd : during = sought.drop 19 := by
    rw [h, List.append_cons, List.drop_left' (by simp [hpre])]
  have hcalls : (sought.drop 19).all (fun m ↦ m.trigger matches .bus | .frame _) := by
    decide +kernel
  have hn : ∀ m ∈ during, ¬ m.PassesRequest := by
    rintro m hm ⟨ssid, passphrase, r, ht, -⟩
    have hb := List.all_eq_true.mp hcalls m (hd ▸ hm)
    rw [ht] at hb
    cases hb
  obtain ⟨x, m, later, hsplit, -, hm⟩ := exists_step during 6 Step.failures (a := [.notFound])
    (by rw [hd]; decide +kernel)
  have hrun : sought = pre ++ (first :: during) ++ [] := by rw [h, List.append_nil]
  have hwhole : first :: during = (first :: x) ++ m :: later := by rw [hsplit, List.cons_append]
  have hfail : .notFound ∈ m.failures := by rw [hm]; exact List.mem_singleton_self _
  obtain ⟨hs, -, hend⟩ := retry_budget hrun hc hn
  exact ⟨pre, first, during, hrun, hc, hn, hs, _, m, later, hwhole, hfail,
    hend _ m later hwhole _ hfail⟩

end SdioWlan
