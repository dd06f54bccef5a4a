import SdioWlan.Proofs.Outcome

namespace SdioWlan

def Action.association? (a : Action) : Option Bytes :=
  match a.command? with
  | some (.associate, block, _) => some block
  | _ => none

def Action.isScan (a : Action) : Bool :=
  match a.command? with
  | some (.scan, _, _) => true
  | _ => false

/-- A scan has offered a network that needs no key, and this is the association with it. -/
def OpenAssociation (msg : Message) (t : Connection.Target) (w : Bytes) : Prop :=
  ∃ body b c, msg = .response .scan 0 body ∧ pickedNetwork body t.ssid = .ok (some b) ∧
    b.security.needsKey = false ∧ associationCommand t b = .ok c ∧ w = c.frame

namespace Step

variable {σ : Type}

def associations (m : Step σ) : List Bytes :=
  if m.trigger = .bus then [] else m.actions.filterMap Action.association?

/-- A scan has offered a network that needs a key. Its key was written before the association with
the same network was kept back, which is the last thing the step does. -/
structure Stages (k : Step σ) [Platform σ] (b : Bss) (c : Command) : Prop where
  offered : ∃ body, k.message = .response .scan 0 body ∧
    pickedNetwork body k.before.driver.connection.target.ssid = .ok (some b)
  keyed : b.security.needsKey
  built : associationCommand k.before.driver.connection.target b = .ok c
  staged : k.after.driver.channel.staged = some c
  given : ∃ key base u payload, keyCommand k.before.driver.connection.target b = .ok key ∧
    u.link.past = key.written base (.ok ()) :: k.before.link.past ∧
    Session.issue .associate .get payload u = (.ok (), k.after)

def PassesRequest (m : Step σ) : Prop :=
  ∃ ssid passphrase r, m.trigger = .call (.connect ssid passphrase) ∧
    m.before.driver.boot.isReady ∧ m.before.driver.connection.request ssid passphrase = .ok r

/-- An attempt fails: it is reported as failed, or a frame makes the driver scan once more. -/
def FailsToConnect (m : Step σ) : Prop :=
  (∃ why, .error why ∈ m.connectOutcomes) ∨
    (∃ f, m.trigger = .frame f) ∧ ∃ x ∈ m.actions, x.isScan

structure Holds (m : Step σ) [Platform σ] (c : Command) : Prop where
  before : m.before.driver.channel.staged = some c
  after : m.after.driver.channel.staged = some c
  no_key : ∀ body, m.message ≠ .response .supplicantPmk 0 body
  no_staging : ∀ b c', ¬ m.Stages b c'
  no_request : ¬ m.PassesRequest
  no_failure : ¬ m.FailsToConnect
  no_end : ∀ body, m.message ≠ .event .deauthenticated body
  no_shutdown : ∀ body, m.message ≠ .response .funcShutdown 0 body

def WritesStaged (m : Step σ) : Prop :=
  (∃ body, m.message = .response .supplicantPmk 0 body) ∧ m.associations ≠ []

end Step

theorem Action.association?_of_calm {x : Action} (h : x.Calm) : x.association? = none := by
  unfold association?
  split
  · rename_i hc
    cases x with
    | access a =>
      simp only [Calm, concernsStation, hc] at h
      cases h
    | stack c => cases hc
    | report r => cases hc
  · rfl

theorem Action.not_isScan_of_calm {x : Action} (h : x.Calm) : x.isScan = false := by
  unfold isScan
  split
  · rename_i hc
    cases x with
    | access a =>
      simp only [Calm, concernsStation, hc] at h
      cases h
    | stack c => cases hc
    | report r => cases hc
  · rfl

theorem associations_of_calm {l : List Action} (h : ∀ x ∈ l, x.Calm) :
    l.filterMap Action.association? = [] := by
  rw [List.filterMap_eq_nil_iff]
  exact fun x hx ↦ Action.association?_of_calm (h x hx)

theorem Command.association?_written {c : Command} (h : c.id ∈ CommandId.known) (base : UInt32)
    (o : Except Errno Unit) :
    (c.written base o).association? = if c.id = .associate then some c.frame else none := by
  simp only [Action.association?, command?_written h]
  cases c.id <;> rfl

theorem Command.isScan_written {c : Command} (h : c.id ∈ CommandId.known) (base : UInt32)
    (o : Except Errno Unit) : (c.written base o).isScan = decide (c.id = .scan) := by
  simp only [Action.isScan, command?_written h]
  cases c.id <;> rfl

namespace Station

variable {a b : Station} {o : Except DriverError Unit} {l : List Action} {why : ConnectFailure}

theorem scan_known {c : Command} (h : c.id = .scan) : c.id ∈ CommandId.known := by
  rw [h]
  decide

theorem association?_of_scan {c : Command} (h : c.id = .scan) (base : UInt32)
    (w : Except Errno Unit) : (c.written base w).association? = none := by
  rw [Command.association?_written (scan_known h), h]
  rfl

theorem Scans.associations (h : a.Scans o l b) : l.filterMap Action.association? = [] :=
  h.filterMap_eq_nil fun _ ↦ association?_of_scan

theorem Fails.associations (h : a.Fails why l b) : l.filterMap Action.association? = [] :=
  h.filterMap_eq_nil (fun _ ↦ association?_of_scan) fun _ ↦ rfl

theorem Joins.associations {n : Bss} (h : a.Joins n o l b) :
    l.filterMap Action.association? = [] ∨
      n.security.needsKey = false ∧ ∃ c, associationCommand a.connection.target n = .ok c ∧
        l.filterMap Action.association? = [c.frame] := by
  cases h with
  | unwritten => exact .inl rfl
  | keyRefused hk | keyOnly hk | staged _ hk =>
    left
    simp [Command.association?_written (keyCommand_known hk), keyCommand_id hk]
  | refused hn hc | sent hn hc =>
    refine .inr ⟨hn, _, hc, ?_⟩
    simp [Command.association?_written (associationCommand_known hc), associationCommand_id hc]

theorem Fails.leaves_trace (h : a.Fails why l b) :
    (∃ why, .error why ∈ l.filterMap Action.connectOutcome?) ∨ ∃ x ∈ l, x.isScan := by
  cases h with
  | gaveUp h => exact .inl ⟨why, List.mem_singleton.mpr rfl⟩
  | retried h hs =>
    cases hs with
    | sent hc base =>
      refine .inr ⟨_, List.mem_singleton.mpr rfl, ?_⟩
      simp [Command.isScan_written (scan_known hc), hc]
  | stranded h hs => exact .inl ⟨_, List.mem_cons_self⟩

end Station

theorem Deed.associations {ready : Bool} {c : Call} {o : Except DriverError Unit}
    {a b : Station} {l : List Action} (h : Deed ready c o a l b) :
    l.filterMap Action.association? = [] := by
  cases h with
  | idle _ hl => exact associations_of_calm hl
  | scanned _ _ hs | connected _ _ hs | aborted _ _ hs => exact hs.associations
  | refused => rfl

theorem Reaction.associations {msg : Message} {a b : Station} {l : List Action}
    (h : Reaction msg a l b) (ha : a.Sound) {w : Bytes}
    (hw : w ∈ l.filterMap Action.association?) :
    OpenAssociation msg a.connection.target w ∨
      ∃ body c, msg = .response .supplicantPmk 0 body ∧ a.staged = some c ∧
        l.filterMap Action.association? = [c.frame] := by
  have hopen {body : Bytes} {n : Bss} {o : Except DriverError Unit} {b : Station} {k : List Action}
      (hp : pickedNetwork body a.connection.target.ssid = .ok (some n))
      (hj : a.answered.Joins n o k b) (hk : w ∈ k.filterMap Action.association?) :
      OpenAssociation (.response .scan 0 body) a.connection.target w := by
    rcases hj.associations with h0 | ⟨hn, c, hc, h1⟩
    · rw [h0] at hk
      cases hk
    · rw [h1] at hk
      simp only [Station.answered, Station.move, Connection.scanAnswered_target] at hc
      exact ⟨body, n, c, rfl, hp, hn, hc, List.mem_singleton.mp hk⟩
  have hkept {c : Command} (hc : a.staged = some c) (base : UInt32) (o : Except Errno Unit) :
      (c.written base o).association? = some c.frame := by
    have hi : c.id = .associate := ha.associates c hc
    have hk : c.id ∈ CommandId.known := by
      rw [hi]
      decide
    rw [Command.association?_written hk, if_pos hi]
  cases h with
  | idle _ hl | shutDown hl =>
    rw [associations_of_calm hl] at hw
    cases hw
  | scanned _ hl =>
    rw [associations_of_calm (Action.calm_of_scanResult hl)] at hw
    cases hw
  | scanFailed _ hf | rejected _ _ hf =>
    rw [hf.associations] at hw
    cases hw
  | joined _ hp hj => exact .inl (hopen hp hj hw)
  | unjoined _ hp hj hf =>
    rw [List.filterMap_append, hf.associations, List.nil_append] at hw
    exact .inl (hopen hp hj hw)
  | unheeded | deauthenticated | released => cases hw
  | flushed hc base => exact .inr ⟨_, _, rfl, hc, by simp [hkept hc]⟩
  | unflushed hc base e hf =>
    refine .inr ⟨_, _, rfl, hc, ?_⟩
    rw [List.filterMap_append, hf.associations]
    simp [hkept hc]

namespace Step

variable {σ : Type} {m : Step σ}

theorem Effect.associations (h : m.Effect) (hs : m.before.driver.station.Sound) {w : Bytes}
    (hw : w ∈ m.associations) :
    OpenAssociation m.message m.before.driver.connection.target w ∨
      ∃ body c, m.message = .response .supplicantPmk 0 body ∧
        m.before.driver.channel.staged = some c ∧ m.associations = [c.frame] := by
  have hm (ht : m.trigger ≠ .bus) : m.associations = m.actions.filterMap Action.association? :=
    if_neg ht
  cases h with
  | bus ht =>
    rw [Step.associations, if_pos ht] at hw
    cases hw
  | powered ht _ hl =>
    rw [hm (by simp [ht]), associations_of_calm hl] at hw
    cases hw
  | call ht hd =>
    rw [hm (by simp [ht]), hd.associations] at hw
    cases hw
  | frame ht hr =>
    rw [hm (by simp [ht])] at hw ⊢
    exact hr.associations hs hw

end Step

structure Undisturbed (msg : Message) (l : List Action) : Prop where
  no_key : ∀ body, msg ≠ .response .supplicantPmk 0 body
  no_end : ∀ body, msg ≠ .event .deauthenticated body
  no_shutdown : ∀ body, msg ≠ .response .funcShutdown 0 body
  no_error : ∀ why, .error why ∉ l.filterMap Action.connectOutcome?
  no_scan : ∀ x ∈ l, x.isScan = false

theorem Undisturbed.of_calm {msg : Message} {l : List Action} (h : msg.Idle)
    (hl : ∀ x ∈ l, x.Calm) : Undisturbed msg l := by
  refine ⟨?_, ?_, ?_, ?_, fun x hx ↦ Action.not_isScan_of_calm (hl x hx)⟩
  · rintro body rfl
    cases h.1
  · rintro body rfl
    exact h.1 rfl
  · rintro body rfl
    exact h.2 ⟨rfl, rfl⟩
  · rw [connectOutcomes_of_calm hl]
    exact fun _ ↦ List.not_mem_nil

theorem Station.Joins.not_isScan {a b : Station} {o : Except DriverError Unit} {l : List Action}
    {n : Bss} (h : a.Joins n o l b) : ∀ x ∈ l, x.isScan = false := by
  have hw {c : Command} {base : UInt32} {w : Except Errno Unit} (hk : c.id ∈ CommandId.known)
      (hs : c.id ≠ .scan) : ∀ x ∈ [c.written base w], x.isScan = false := by
    intro x hx
    rw [List.mem_singleton.mp hx, Command.isScan_written hk]
    simpa using hs
  cases h with
  | unwritten => simp
  | keyRefused hk | keyOnly hk | staged _ hk =>
    exact hw (keyCommand_known hk) (by simp [keyCommand_id hk])
  | refused _ hc | sent _ hc =>
    exact hw (associationCommand_known hc) (by simp [associationCommand_id hc])

/-- An association is kept back because a scan has just offered its network, or it was kept back
before and nothing has disturbed it. -/
theorem Reaction.staged {msg : Message} {a b : Station} {l : List Action} (h : Reaction msg a l b)
    {c : Command} (hc : b.staged = some c) :
    (∃ body n, msg = .response .scan 0 body ∧ a.connection.scanAnswered.1 = .connect ∧
      pickedNetwork body a.connection.target.ssid = .ok (some n) ∧ n.security.needsKey ∧
      associationCommand a.connection.target n = .ok c) ∨
    a.staged = some c ∧ Undisturbed msg l := by
  cases h with
  | idle hi hl => exact .inr ⟨hc, .of_calm hi hl⟩
  | scanned _ hl =>
    have hcalm := Action.calm_of_scanResult hl
    refine .inr ⟨hc, by simp, by simp, by simp, ?_, fun x hx ↦ ?_⟩
    · rw [connectOutcomes_of_calm hcalm]
      exact fun _ ↦ List.not_mem_nil
    · exact Action.not_isScan_of_calm (hcalm x hx)
  | scanFailed _ hf | rejected _ _ hf | unflushed _ _ _ hf | unjoined _ _ _ hf =>
    rw [hf.staged] at hc
    cases hc
  | joined hv hp hj =>
    have hno (why : ConnectFailure) : .error why ∉ l.filterMap Action.connectOutcome? := by
      rw [hj.connectOutcomes]
      exact List.not_mem_nil
    have hns := hj.not_isScan
    cases hj with
    | staged hn hk ha base =>
      cases hc
      simp only [Station.answered, Station.move, Connection.scanAnswered_target] at ha
      exact .inl ⟨_, _, rfl, hv, hp, hn, ha⟩
    | sent => exact .inr ⟨hc, by simp, by simp, by simp, hno, hns⟩
  | unheeded hi _ hs =>
    refine .inr ⟨hc, ?_, by simp, ?_, fun _ ↦ List.not_mem_nil, by simp⟩
    · intro body he
      cases he
      rw [hs rfl rfl] at hc
      cases hc
    · intro body he
      cases he
      rcases hi with hi | hi <;> cases hi
  | flushed | shutDown | deauthenticated => cases hc
  | released =>
    refine .inr ⟨hc, by simp, by simp, by simp, by simp [Action.connectOutcome?], ?_⟩
    simp [Action.isScan, Action.command?]

theorem Deed.staged {ready : Bool} {c : Call} {o : Except DriverError Unit} {a b : Station}
    {l : List Action} (h : Deed ready c o a l b) {x : Command} (hc : b.staged = some x) :
    a.staged = some x ∧ l.filterMap Action.connectOutcome? = [] ∧
      ∀ ssid passphrase r, c = .connect ssid passphrase → ready = true →
        a.connection.request ssid passphrase ≠ .ok r := by
  cases h with
  | idle h hl => exact ⟨hc, connectOutcomes_of_calm hl, fun _ _ _ he ↦ absurd he (h _ _)⟩
  | scanned h _ hs =>
    exact ⟨hs.staged ▸ hc, hs.connectOutcomes, fun _ _ _ he ↦ absurd he (h _ _)⟩
  | refused h =>
    refine ⟨hc, rfl, fun ssid passphrase r he hr hq ↦ ?_⟩
    cases he
    rcases h with h | ⟨e, h⟩
    · rw [hr] at h
      cases h
    · rw [hq] at h
      cases h
  | connected _ _ hs =>
    rw [hs.staged] at hc
    cases hc
  | aborted _ _ hs =>
    have hc' : _ = some x := hs.staged.symm.trans hc
    cases hc'

namespace Session

variable {σ : Type} [Platform σ] {s t : Session σ}

/-- With a network that needs a key the key is written first, and the association comes last. -/
theorem associate_given (h : s.driver.station.held = false) {b : Bss} (hn : b.security.needsKey)
    (hr : associate b s = (.ok (), t)) :
    ∃ key base u payload, keyCommand s.driver.connection.target b = .ok key ∧
      u.link.past = key.written base (.ok ()) :: s.link.past ∧
      issue .associate .get payload u = (.ok (), t) := by
  rw [associate_apply] at hr
  simp only [bind_apply, liftM_apply, hn, if_true] at hr
  cases hb : Params.association s.driver.connection.target.ssid b.channel b.security with
  | error e =>
    rw [hb] at hr
    cases hr
  | ok block =>
    simp only [hb] at hr
    obtain ⟨l, ⟨-, hk⟩, hl⟩ := giveKey_does h (b := b)
    rcases hg : giveKey b (s.toward b) with ⟨e | _, u⟩
    · rw [hg] at hr
      cases hr
    · rw [hg] at hr hk hl
      rcases hk with ⟨e, ho, -⟩ | ⟨key, base, w, hk, ho, rfl⟩
      · cases ho
      cases w with
      | error e => cases ho
      | ok _ =>
        simp only [issueAssociation, bind_apply, liftM_apply] at hr
        cases hs : (Params.addSecurity block b.security b.vendor b.rsn).1 with
        | error e =>
          rw [hs] at hr
          cases hr
        | ok _ =>
          rw [hs] at hr
          exact ⟨key, base, u, _, hk, hl, hr⟩

theorem receive_picked {f body : Bytes} {b : Bss}
    (hm : Message.ofFrame f = .response .scan 0 body)
    (hv : s.driver.connection.scanAnswered.1 = .connect)
    (hp : pickedNetwork body s.driver.connection.target.ssid = .ok (some b)) :
    ∃ u, receive f s =
        (tryCatch (associate b) fun e ↦ connectFailed (.command e) : Act σ Unit) u ∧
      u.driver.station = s.driver.station.answered ∧ u.link.past = s.link.past := by
  rw [receive_response hm]
  simp only [answer, ne_eq, not_true_eq_false, if_false, commandDone, bind_apply, update_apply,
    onScan, takeScan_apply]
  unfold pickedNetwork at hp
  cases hr : ScanReport.parse body with
  | error e =>
    rw [hr] at hp
    cases hp
  | ok r =>
    rw [hr] at hp
    have hf : r.networks.find? (·.ssid == s.driver.connection.target.ssid) = some b := by
      simpa only [bind, Except.bind, pure, Except.pure, Except.ok.injEq] using hp
    simp only [hv, pickNetwork, bind_apply, view_apply, answered,
      Connection.scanAnswered_target, hf]
    exact ⟨_, rfl, rfl, rfl⟩

end Session

open Session ScriptedChip

namespace Step

variable {σ : Type} [Platform σ] {m : Step σ} {c : Command}

theorem holds_of_other (ht : ∀ f, m.trigger ≠ .frame f) (ho : m.connectOutcomes = [])
    (hr : ¬ m.PassesRequest) (hb : m.before.driver.channel.staged = some c)
    (ha : m.after.driver.channel.staged = some c) : m.Holds c := by
  have hm : m.message = .other := by
    unfold message
    split
    · rename_i f hf
      exact absurd hf (ht f)
    all_goals rfl
  refine ⟨hb, ha, by simp [hm], fun b c' h ↦ ?_, hr, ?_, by simp [hm], by simp [hm]⟩
  · obtain ⟨body, hs, -⟩ := h.offered
    rw [hm] at hs
    cases hs
  · rintro (⟨why, hw⟩ | ⟨⟨f, hf⟩, -⟩)
    · rw [ho] at hw
      cases hw
    · exact ht f hf

theorem holds_of_undisturbed {f : Bytes} (ht : m.trigger = .frame f)
    (hu : Undisturbed m.message m.actions) (hs : ∀ b c', ¬ m.Stages b c')
    (hb : m.before.driver.channel.staged = some c)
    (ha : m.after.driver.channel.staged = some c) : m.Holds c := by
  refine ⟨hb, ha, hu.no_key, hs, ?_, ?_, hu.no_end, hu.no_shutdown⟩
  · rintro ⟨ssid, passphrase, r, hc, -⟩
    rw [ht] at hc
    cases hc
  · rintro (⟨why, hw⟩ | ⟨-, x, hx, hscan⟩)
    · exact hu.no_error why hw
    · rw [hu.no_scan x hx] at hscan
      cases hscan

theorem stages_of_picked {f body : Bytes} {b : Bss} (hg : m.Genuine) (ht : m.trigger = .frame f)
    (hs : m.before.driver.station.Sound) (hm : m.message = .response .scan 0 body)
    (hv : m.before.driver.connection.scanAnswered.1 = .connect)
    (hp : pickedNetwork body m.before.driver.connection.target.ssid = .ok (some b))
    (hn : b.security.needsKey)
    (hb : associationCommand m.before.driver.connection.target b = .ok c)
    (hc : m.after.driver.channel.staged = some c) : m.Stages b c := by
  refine ⟨⟨body, hm, hp⟩, hn, hb, hc, ?_⟩
  have hr : receive f m.before = (m.outcome, m.after) := by
    unfold Genuine at hg
    rwa [ht] at hg
  have hf : Message.ofFrame f = .response .scan 0 body := by simpa only [message, ht] using hm
  obtain ⟨u, hu, hus, hul⟩ := receive_picked hf hv hp
  have hfree : u.driver.station.held = false := by
    rw [hus]
    exact hs.free
  have htarget : u.driver.connection.target = m.before.driver.connection.target := by
    have he := congrArg (·.connection.target) hus
    exact he.trans (Connection.scanAnswered_target _)
  rw [hu, tryCatch_apply] at hr
  rcases ha : associate b u with ⟨e | _, t⟩
  · rw [ha] at hr
    have hj := associate_joins hfree b
    rw [ha] at hj
    obtain ⟨l, hj, -⟩ := hj
    obtain ⟨k, hk, -⟩ := connectFailed_fails (s := t) (hj.held.trans hfree) (.command e)
    have hnone := hk.staged
    simp only [hr] at hnone
    have hc' : m.after.driver.station.staged = some c := hc
    rw [hnone] at hc'
    cases hc'
  · rw [ha] at hr
    obtain rfl : t = m.after := congrArg Prod.snd hr
    obtain ⟨key, base, v, payload, hk, hl, hi⟩ := associate_given hfree hn ha
    exact ⟨key, base, v, payload, htarget ▸ hk, hul ▸ hl, hi⟩

theorem Genuine.staged (hg : m.Genuine) (hs : m.before.driver.station.Sound)
    (hc : m.after.driver.channel.staged = some c) : (∃ b, m.Stages b c) ∨ m.Holds c := by
  have hsame (hb : m.after.driver.station = m.before.driver.station) :
      m.before.driver.channel.staged = some c := (congrArg Station.staged hb).symm.trans hc
  cases (hg.effect hs).1 with
  | bus ht hb hl =>
    exact .inr (holds_of_other (by simp [ht]) (connectOutcomes_of_access hl)
      (by simp [PassesRequest, ht]) (hsame hb) hc)
  | powered ht hb hl =>
    exact .inr (holds_of_other (by simp [ht]) (connectOutcomes_of_calm hl)
      (by simp [PassesRequest, ht]) (hsame hb) hc)
  | call ht hd =>
    obtain ⟨hb, ho, hq⟩ := hd.staged hc
    refine .inr (holds_of_other (by simp [ht]) ho ?_ hb hc)
    rintro ⟨ssid, passphrase, r, hcall, hr, h⟩
    rw [ht] at hcall
    cases hcall
    exact hq _ _ _ rfl hr h
  | frame ht hr =>
    by_cases hst : ∃ b, m.Stages b c
    · exact .inl hst
    rcases hr.staged hc with ⟨body, b, hm, hv, hp, hn, hb⟩ | ⟨hb, hu⟩
    · exact .inl ⟨b, stages_of_picked hg ht hs hm hv hp hn hb hc⟩
    · refine .inr (holds_of_undisturbed ht hu (fun b c' h ↦ hst ⟨b, ?_⟩) hb hc)
      rwa [← Option.some.inj (h.staged.symm.trans hc)]

end Step

/-- An association that is kept back was staged by a step of the run, and held ever since. -/
theorem Path.staged {σ : Type} [Platform σ] {s t : Session σ} {ms : List (Step σ)}
    (h : Path s ms t) (hs : s.driver.station.Sound) (h0 : s.driver.channel.staged = none)
    {c : Command} (hc : t.driver.channel.staged = some c) :
    ∃ a k mid b, ms = a ++ k :: mid ∧ k.Stages b c ∧ ∀ x ∈ mid, x.Holds c := by
  revert hc
  refine h.rec_snoc (P := fun ms t ↦ t.driver.channel.staged = some c →
    ∃ a k mid b, ms = a ++ k :: mid ∧ k.Stages b c ∧ ∀ x ∈ mid, x.Holds c) (fun hc ↦ ?_)
    fun ms m hp hg ih hc ↦ ?_
  · rw [h0] at hc
    cases hc
  · rcases hg.staged (hp.sound hs) hc with ⟨b, hst⟩ | hh
    · exact ⟨ms, m, [], b, rfl, hst, fun _ hx ↦ absurd hx List.not_mem_nil⟩
    · obtain ⟨a, k, mid, b, rfl, hst, hmid⟩ := ih hh.before
      refine ⟨a, k, mid ++ [m], b, by simp, hst, fun x hx ↦ ?_⟩
      rcases List.mem_append.mp hx with hx | hx
      · exact hmid x hx
      · rw [List.mem_singleton.mp hx]
        exact hh

/-- In every run, an association with a network that needs a key is written only when the chip has
taken the key, and is the last one that was kept back. Since then nothing has ended the attempt or
replaced it, and nothing else has written it. As long as one is kept back there is an attempt or a
connection. -/
theorem secured_association {σ : Type} [Platform σ] {config : Config} {firmware : FirmwareSource}
    {device : σ} {calls : List Call} {pre post : List (Step σ)} {m : Step σ}
    (h : steps calls (fresh config firmware device) = pre ++ m :: post) :
    (∀ w ∈ m.associations, OpenAssociation m.message m.before.driver.connection.target w ∨
      ∃ body a k mid b c, m.message = .response .supplicantPmk 0 body ∧ pre = a ++ k :: mid ∧
        k.Stages b c ∧ (∀ x ∈ mid, x.Holds c) ∧ m.associations = [c.frame]) ∧
    (∀ a x mid, pre = a ++ x :: mid → x.WritesStaged → m.WritesStaged →
      ∃ k ∈ mid, ∃ b c, k.Stages b c) ∧
    (m.after.driver.channel.staged.isSome → m.after.status ≠ .notConnected) := by
  obtain ⟨hp, hg, hs⟩ := steps_around h
  obtain ⟨he, -⟩ := hg.effect hs
  have hstart : (fresh config firmware device).driver.channel.staged = none := rfl
  have hsource {c : Command} (hc : m.before.driver.channel.staged = some c) :=
    hp.staged (fresh_sound _ _ _) hstart hc
  refine ⟨fun w hw ↦ ?_, fun a x mid hpre hx hm ↦ ?_, (he.sound hs).heeded⟩
  · rcases he.associations hs hw with ho | ⟨body, c, hm, hc, ha⟩
    · exact .inl ho
    · obtain ⟨a, k, mid, b, hpre, hk, hmid⟩ := hsource hc
      exact .inr ⟨body, a, k, mid, b, c, hm, hpre, hk, hmid, ha⟩
  · obtain ⟨⟨body, hm⟩, hw⟩ := hm
    obtain ⟨⟨body', hx⟩, -⟩ := hx
    obtain ⟨w, hw⟩ := List.exists_mem_of_ne_nil _ hw
    rcases he.associations hs hw with ⟨_, _, _, ho, -⟩ | ⟨_, c, -, hc, -⟩
    · rw [hm] at ho
      cases ho
    obtain ⟨a', k, mid', b, hpre', hk, hmid⟩ := hsource hc
    -- the step that staged it comes after `x`, or `x` would be among those that held it
    have hkx : x ≠ k := by
      rintro rfl
      obtain ⟨_, ho, -⟩ := hk.offered
      rw [hx] at ho
      cases ho
    rw [hpre] at hpre'
    rcases List.append_eq_append_iff.mp hpre' with ⟨l, -, hl⟩ | ⟨l, -, hl⟩
    · cases l with
      | nil => exact absurd (List.cons.inj hl).1 hkx
      | cons y l =>
        rw [(List.cons.inj hl).2]
        exact ⟨k, by simp, b, c, hk⟩
    · cases l with
      | nil => exact absurd (List.cons.inj hl).1.symm hkx
      | cons y l =>
        have hxm : x ∈ mid' := by
          rw [(List.cons.inj hl).2]
          simp
        exact absurd hx ((hmid x hxm).no_key body')

theorem secured_association_written :
    ∃ pre m post w, stepsOf [.connect [65] [112], .serviceInterrupt, .serviceInterrupt]
        [response .scan 0 securedNetwork, response .supplicantPmk 0 []] = pre ++ m :: post ∧
      w ∈ m.associations ∧ ∃ body a k mid b c, m.message = .response .supplicantPmk 0 body ∧
        pre = a ++ k :: mid ∧ k.Stages b c ∧ (∀ x ∈ mid, x.Holds c) ∧
        m.associations = [c.frame] := by
  obtain ⟨pre, m, post, h, -, hm⟩ := exists_step
    (stepsOf [.connect [65] [112], .serviceInterrupt, .serviceInterrupt]
      [response .scan 0 securedNetwork, response .supplicantPmk 0 []]) 25
    (fun m ↦ (m.message, m.associations.length)) (a := (.response .supplicantPmk 0 [], 1))
    (by decide +kernel)
  simp only [Prod.mk.injEq] at hm
  obtain ⟨w, hw⟩ := List.length_eq_one_iff.mp hm.2
  have hmem : w ∈ m.associations := by
    rw [hw]
    simp
  rcases (secured_association h).1 w hmem with ⟨_, _, _, ho, -⟩ | hk
  · rw [hm.1] at ho
    cases ho
  · exact ⟨pre, m, post, w, h, hmem, hk⟩

end SdioWlan
