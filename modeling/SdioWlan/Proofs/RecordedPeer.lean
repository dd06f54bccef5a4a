import SdioWlan.Proofs.Staging
import SdioWlan.Proofs.StationLink

namespace SdioWlan

def Action.associated? (a : Action) : Option Bytes :=
  match a.command? with
  | some (.associate, block, .ok ()) => some block
  | _ => none

namespace Step

variable {σ : Type}

def associated? (m : Step σ) : Option Bytes :=
  if m.trigger = .bus then none else m.actions.findSome? Action.associated?

def picked? (m : Step σ) : Option Bss :=
  match m.message with
  | .response .scan 0 body =>
    if m.before.driver.connection.scanAnswered.1 = .connect then
      (pickedNetwork body m.before.driver.connection.target.ssid).toOption.join
    else none
  | _ => none

def Builds (m : Step σ) (b : Bss) (c : Command) : Prop :=
  m.picked? = some b ∧ associationCommand m.before.driver.connection.target b = .ok c

def forgets (m : Step σ) : Bool :=
  match m.trigger with
  | .call (.connect ssid passphrase) =>
    m.before.driver.boot.isReady && (m.before.driver.connection.request ssid passphrase).isOk
  | _ => m.message matches .response .funcShutdown 0 _

/-- The address that a step puts in place of the one recorded before. -/
def records? (m : Step σ) : Option Mac :=
  if m.forgets then some .zero else m.picked?.map (·.bssid)

/-- Whether the chip may let data through: an association has been written since the last start and
since the access point last ended the connection. -/
def joined (before : Bool) (m : Step σ) : Bool :=
  m.associated?.isSome || before && !(m.trigger matches .powered _) &&
    !(m.message matches .event .deauthenticated _)

end Step

def latest {σ α : Type} (f : Step σ → Option α) (ms : List (Step σ)) : Option α :=
  ms.reverse.findSome? f

/-- The chip lets data through only when it may. -/
def ReleasesEarned {σ : Type} (ms : List (Step σ)) : Prop :=
  ∀ pre m post, ms = pre ++ m :: post → (∃ body, m.message = .event .portRelease body) →
    pre.foldl Step.joined false = true

def releasesEarnedFrom {σ : Type} (before : Bool) : List (Step σ) → Bool
  | [] => true
  | m :: rest =>
    (before || !(m.message matches .event .portRelease _)) &&
      releasesEarnedFrom (m.joined before) rest

theorem releasesEarnedFrom_iff {σ : Type} {before : Bool} {ms : List (Step σ)} :
    releasesEarnedFrom before ms = true ↔ ∀ pre m post, ms = pre ++ m :: post →
      (∃ body, m.message = .event .portRelease body) → pre.foldl Step.joined before = true := by
  induction ms generalizing before with
  | nil => simp [releasesEarnedFrom]
  | cons x rest ih =>
    rw [releasesEarnedFrom, Bool.and_eq_true, ih]
    constructor
    · rintro ⟨hx, hrest⟩ pre m post hs hm
      cases pre with
      | nil =>
        obtain ⟨rfl, -⟩ := List.cons.inj hs
        obtain ⟨body, hb⟩ := hm
        simpa [hb] using hx
      | cons y pre =>
        obtain ⟨rfl, ht⟩ := List.cons.inj hs
        exact hrest pre m post ht hm
    · intro h
      refine ⟨?_, fun pre m post hs ↦ h (x :: pre) m post (by rw [hs, List.cons_append])⟩
      have hx := h [] x rest rfl
      split
      · next body hb => simpa using hx ⟨body, hb⟩
      · simp

instance {σ : Type} (ms : List (Step σ)) : Decidable (ReleasesEarned ms) :=
  decidable_of_iff (releasesEarnedFrom false ms = true) releasesEarnedFrom_iff

abbrev Session.recorded {σ : Type} (s : Session σ) : Mac := s.driver.connection.target.bssid

@[simp] theorem latest_concat {σ α : Type} {f : Step σ → Option α} {ms : List (Step σ)}
    {m : Step σ} : latest f (ms ++ [m]) = (f m).or (latest f ms) := by
  simp only [latest, List.reverse_append, List.reverse_singleton, List.singleton_append,
    List.findSome?_cons]
  cases f m <;> rfl

namespace Station

variable {a b : Station} {o : Except DriverError Unit} {l : List Action} {why : ConnectFailure}

theorem Scans.target (h : a.Scans o l b) : b.connection.target = a.connection.target := by
  cases h <;> rfl

theorem Fails.target (h : a.Fails why l b) : b.connection.target = a.connection.target := by
  have ht : (a.forget.move a.connection.attemptFailed.2).connection.target =
      a.connection.target := by
    simp only [move, Connection.attemptFailed]
    split <;> rfl
  cases h with
  | gaveUp => exact ht
  | retried _ hs | stranded _ hs => exact hs.target.trans ht

theorem Joins.bssid {n : Bss} (h : a.Joins n o l b) : b.connection.target.bssid = n.bssid := by
  cases h <;> rfl

end Station

theorem associationCommand_bssid {t : Connection.Target} {n : Bss} {c : Command}
    (h : associationCommand t n = .ok c) : Mac.ofBytes? c.body = some n.bssid := by
  obtain ⟨payload, he⟩ := Station.encode_of_associationCommand h
  rw [Command.ofBody_body he]
  rfl

theorem Deed.target {ready : Bool} {c : Call} {o : Except DriverError Unit} {a b : Station}
    {l : List Action} (h : Deed ready c o a l b) :
    b.connection.target = a.connection.target ∧
        (∀ ssid passphrase r, c = .connect ssid passphrase → ready = true →
          a.connection.request ssid passphrase ≠ .ok r) ∨
      ∃ ssid passphrase r, c = .connect ssid passphrase ∧ ready = true ∧
        a.connection.request ssid passphrase = .ok r ∧
        b.connection.target = { ssid, passphrase } := by
  cases h with
  | idle h => exact .inl ⟨rfl, fun _ _ _ hc ↦ absurd hc (h _ _)⟩
  | scanned h _ hs => exact .inl ⟨hs.target, fun _ _ _ hc ↦ absurd hc (h _ _)⟩
  | refused h =>
    refine .inl ⟨rfl, fun ssid passphrase r hc hr hq ↦ ?_⟩
    cases hc
    rcases h with h | ⟨e, h⟩
    · rw [hr] at h
      cases h
    · rw [hq] at h
      cases h
  | connected hr hq hs | aborted hr hq hs =>
    refine .inr ⟨_, _, _, rfl, hr, hq, hs.target.trans ?_⟩
    exact congrArg Connection.target (Connection.status_of_request hq).2

/-- A message by which no network is picked leaves the target alone, unless the chip has shut
down. -/
theorem Reaction.target {msg : Message} {a b : Station} {l : List Action} (h : Reaction msg a l b)
    (hp : ∀ body n, msg = .response .scan 0 body → a.connection.scanAnswered.1 = .connect →
      pickedNetwork body a.connection.target.ssid ≠ .ok (some n)) :
    b.connection.target = a.connection.target ∧
        (∀ body, msg ≠ .response .funcShutdown 0 body) ∨
      (∃ body, msg = .response .funcShutdown 0 body) ∧ b.connection.target = {} := by
  cases h with
  | idle hi => exact .inl ⟨rfl, fun body hm ↦ by subst hm; exact hi.2 ⟨rfl, rfl⟩⟩
  | scanned => exact .inl ⟨Connection.scanAnswered_target _, by simp⟩
  | scanFailed _ hf => exact .inl ⟨hf.target.trans (Connection.scanAnswered_target _), by simp⟩
  | joined hv hn | unjoined hv hn => exact absurd hn (hp _ _ rfl hv)
  | unheeded hi =>
    refine .inl ⟨rfl, fun body hm ↦ ?_⟩
    cases hm
    rcases hi with hi | hi <;> cases hi
  | rejected _ he hf =>
    refine .inl ⟨hf.target, fun body hm ↦ ?_⟩
    cases hm
    rcases he with ⟨-, h0⟩ | ⟨hi, -⟩
    · exact h0 rfl
    · cases hi
  | flushed => exact .inl ⟨rfl, by simp⟩
  | unflushed _ _ _ hf => exact .inl ⟨hf.target, by simp⟩
  | shutDown => exact .inr ⟨⟨_, rfl⟩, rfl⟩
  | deauthenticated | released => exact .inl ⟨rfl, by simp⟩

namespace Step

variable {σ : Type} {m : Step σ} {b : Bss} {c : Command}

theorem picked?_eq_some : m.picked? = some b ↔ ∃ body, m.message = .response .scan 0 body ∧
    m.before.driver.connection.scanAnswered.1 = .connect ∧
    pickedNetwork body m.before.driver.connection.target.ssid = .ok (some b) := by
  unfold picked?
  split
  · next body hm =>
    rw [hm]
    simp only [Message.response.injEq, true_and, exists_eq_left']
    split
    · next hv =>
      rcases pickedNetwork body m.before.driver.connection.target.ssid with e | _ | n <;>
        simp [hv, Except.toOption]
    · next hv => simp [hv]
  · next hm => simpa using fun body hb ↦ absurd hb (hm body)

theorem frame_of_message (h : m.message ≠ .other) : ∃ f, m.trigger = .frame f := by
  unfold message at h
  split at h
  · next f hf => exact ⟨f, hf⟩
  all_goals exact absurd rfl h

theorem forgets_iff_message (ht : ∀ c, m.trigger ≠ .call c) :
    m.forgets = true ↔ ∃ body, m.message = .response .funcShutdown 0 body := by
  unfold forgets
  split
  · next hc => exact absurd hc (ht _)
  · split
    · next body hm => simp [hm]
    · next hm => simpa using hm

theorem forgets_iff_request {c : Call} (ht : m.trigger = .call c) :
    m.forgets = true ↔ ∃ ssid passphrase r, c = .connect ssid passphrase ∧
      m.before.driver.boot.isReady = true ∧
      m.before.driver.connection.request ssid passphrase = .ok r := by
  unfold forgets
  split
  · next ssid passphrase hc =>
    obtain rfl : c = .connect ssid passphrase := Trigger.call.inj (ht.symm.trans hc)
    cases hq : m.before.driver.connection.request ssid passphrase <;>
      simp [Except.isOk, Except.toBool, hq]
  · next hn =>
    have hm : m.message = .other := by
      by_contra h
      obtain ⟨f, hf⟩ := frame_of_message h
      rw [ht] at hf
      cases hf
    refine iff_of_false (by simp [hm]) ?_
    rintro ⟨ssid, passphrase, r, rfl, -⟩
    exact hn _ _ ht

/-- As long as no network is picked, the address stays until the target is forgotten. -/
theorem Effect.recorded_of_unpicked (h : m.Effect) (hp : m.picked? = none) :
    m.after.recorded = m.records?.getD m.before.recorded := by
  have hkept (hf : ¬ m.forgets = true)
      (hb : m.after.driver.connection.target = m.before.driver.connection.target) :
      m.after.recorded = m.records?.getD m.before.recorded := by
    simp [records?, hf, hp, Session.recorded, hb]
  have hlost (hf : m.forgets = true) (hb : m.after.recorded = .zero) :
      m.after.recorded = m.records?.getD m.before.recorded := by
    simp [records?, hf, hb]
  cases h with
  | bus ht hb | powered ht hb =>
    refine hkept ?_ (congrArg (·.connection.target) hb)
    rw [forgets_iff_message (by simp [ht])]
    simp [message, ht]
  | call ht hd =>
    rcases hd.target with ⟨hb, hn⟩ | ⟨ssid, passphrase, r, hc, hr, hq, hb⟩
    · refine hkept ?_ hb
      rw [forgets_iff_request ht]
      rintro ⟨ssid, passphrase, r, hc, hr, hq⟩
      exact hn _ _ _ hc hr hq
    · exact hlost ((forgets_iff_request ht).mpr ⟨_, _, _, hc, hr, hq⟩)
        (congrArg Connection.Target.bssid hb)
  | frame ht hr =>
    have hnone : ∀ body n, m.message = .response .scan 0 body →
        m.before.driver.connection.scanAnswered.1 = .connect →
        pickedNetwork body m.before.driver.connection.target.ssid ≠ .ok (some n) := by
      intro body n hm hv hn
      rw [picked?_eq_some.mpr ⟨body, hm, hv, hn⟩] at hp
      cases hp
    have hf := forgets_iff_message (m := m) (by simp [ht])
    rcases hr.target hnone with ⟨hb, hn⟩ | ⟨hm, hz⟩
    · refine hkept (fun h ↦ ?_) hb
      obtain ⟨body, hm⟩ := hf.mp h
      exact hn body hm
    · exact hlost (hf.mpr hm) (congrArg Connection.Target.bssid hz)

variable [Platform σ]

/-- However the attempt goes on, the network that was picked is recorded. -/
theorem Genuine.recorded_of_picked (hg : m.Genuine) (hs : m.before.driver.station.Sound)
    (hp : m.picked? = some b) : m.after.recorded = b.bssid := by
  obtain ⟨body, hm, hv, hn⟩ := picked?_eq_some.mp hp
  -- a reaction by which the scan fails does not say whether a network was picked before
  unfold message at hm
  unfold Genuine at hg
  split at hm
  · next f ht =>
    rw [ht] at hg
    obtain ⟨u, hu, hus, -⟩ := Session.receive_picked hm hv hn
    have hfree : u.driver.station.held = false := by
      rw [hus]
      exact hs.free
    obtain ⟨l, hj, -⟩ := Session.associate_joins hfree b
    have hr := (hu.symm.trans hg : _)
    rw [Session.tryCatch_apply] at hr
    rcases ha : Session.associate b u with ⟨e | _, t⟩ <;> rw [ha] at hr hj
    · obtain ⟨k, hk, -⟩ := Session.connectFailed_fails (s := t) (hj.held.trans hfree) (.command e)
      have hf : Session.connectFailed (.command e) t = (m.outcome, m.after) := hr
      rw [hf] at hk
      exact (congrArg Connection.Target.bssid hk.target).trans hj.bssid
    · obtain rfl : t = m.after := congrArg Prod.snd hr
      exact hj.bssid
  all_goals cases hm

theorem Genuine.recorded (hg : m.Genuine) (hs : m.before.driver.station.Sound) :
    m.after.recorded = m.records?.getD m.before.recorded := by
  cases hp : m.picked? with
  | some b =>
    obtain ⟨body, hm, -, -⟩ := picked?_eq_some.mp hp
    obtain ⟨f, ht⟩ := frame_of_message (m := m) (by simp [hm])
    have hf : ¬ m.forgets = true := by
      rw [forgets_iff_message (by simp [ht]), hm]
      simp
    simp [records?, hf, hp, hg.recorded_of_picked hs hp]
  | none => exact (hg.effect hs).1.recorded_of_unpicked hp

end Step

theorem Reaction.associations_of_unheeded {result : UInt8} {body : Bytes} {a b : Station}
    {l : List Action} (h : Reaction (.response .scan result body) a l b)
    (hv : a.connection.scanAnswered.1 ≠ .connect) : l.filterMap Action.association? = [] := by
  cases h with
  | idle hi => cases hi.1
  | scanned _ hl => exact associations_of_calm (Action.calm_of_scanResult hl)
  | scanFailed h | joined h | unjoined h => exact absurd h hv
  | unheeded hi => rcases hi with hi | hi <;> cases hi
  | rejected _ he => rcases he with ⟨hi | hi, -⟩ | ⟨hi, -⟩ <;> cases hi

namespace Step

variable {σ : Type} {m : Step σ} {w : Bytes}

theorem mem_associations (h : m.associated? = some w) : w ∈ m.associations := by
  unfold associated? at h
  split at h
  · cases h
  · next ht =>
    obtain ⟨x, hx, hw⟩ := List.exists_of_findSome?_eq_some h
    rw [associations, if_neg ht]
    refine List.mem_filterMap.mpr ⟨x, hx, ?_⟩
    unfold Action.associated? at hw
    split at hw
    · next block hc =>
      cases hw
      simp only [Action.association?, hc]
    · cases hw

/-- A connection begins only when the chip lets data through. -/
theorem Effect.released (h : m.Effect) (hb : m.before.status ≠ .connected)
    (ha : m.after.status = .connected) : ∃ body, m.message = .event .portRelease body := by
  have hs : m.Settles := by
    by_contra hs
    exact hb ((h.unsettling hs).2.1 ha)
  obtain ⟨body, hr | hd⟩ := hs
  · exact ⟨body, hr⟩
  · cases h with
    | bus ht | powered ht | call ht =>
      obtain ⟨f, hf⟩ := frame_of_message (m := m) (by simp [hd])
      rw [ht] at hf
      cases hf
    | frame ht hr =>
      rw [hd] at hr
      have hc : m.after.driver.station.connection.status = .connected := ha
      generalize m.actions = l, m.before.driver.station = a, m.after.driver.station = b at hr hc
      cases hr with
      | idle hi => exact absurd rfl hi.1
      | deauthenticated => cases hc

variable [Platform σ] {c : Command}

theorem Genuine.builds_or_staged (hg : m.Genuine) (hs : m.before.driver.station.Sound)
    (hw : w ∈ m.associations) : (∃ b c, m.Builds b c ∧ w = c.frame) ∨
      ∃ c, m.before.driver.channel.staged = some c ∧ w = c.frame := by
  have he := (hg.effect hs).1
  rcases he.associations hs hw with ⟨body, b, c, hm, hp, -, hc, rfl⟩ | ⟨body, c, -, hc, ha⟩
  · refine .inl ⟨b, c, ⟨picked?_eq_some.mpr ⟨body, hm, ?_, hp⟩, hc⟩, rfl⟩
    by_contra hv
    obtain ⟨f, ht⟩ := frame_of_message (m := m) (by simp [hm])
    cases he with
    | frame _ hr =>
      rw [hm] at hr
      rw [associations, if_neg (by simp [ht]), hr.associations_of_unheeded hv] at hw
      cases hw
    | bus h | powered h | call h =>
      rw [ht] at h
      cases h
  · rw [ha, List.mem_singleton] at hw
    exact .inr ⟨c, hc, hw⟩

theorem Genuine.builds_or_held (hg : m.Genuine) (hs : m.before.driver.station.Sound)
    (hc : m.after.driver.channel.staged = some c) :
    (∃ b, m.Builds b c) ∨ m.before.driver.channel.staged = some c := by
  cases (hg.effect hs).1 with
  | bus _ hb | powered _ hb => exact .inr ((congrArg Station.staged hb).symm.trans hc)
  | call _ hd => exact .inr (hd.staged hc).1
  | frame _ hr =>
    rcases hr.staged hc with ⟨body, b, hm, hv, hp, -, hb⟩ | ⟨hb, -⟩
    · exact .inl ⟨b, picked?_eq_some.mpr ⟨body, hm, hv, hp⟩, hb⟩
    · exact .inr hb

end Step

def Built {σ : Type} (ms : List (Step σ)) (c : Command) : Prop :=
  ∃ pre k mid b, ms = pre ++ k :: mid ∧ k.Builds b c

/-- Every association that waits or was written last goes back to a network that was picked. -/
structure Traced {σ : Type} (ms : List (Step σ)) (s : Session σ) : Prop where
  staged : ∀ c, s.driver.channel.staged = some c → Built ms c
  written : ∀ w, latest Step.associated? ms = some w → ∃ c, Built ms c ∧ w = c.frame

section Runs

variable {σ : Type} {ms : List (Step σ)} {m : Step σ} {c : Command}

theorem Built.concat (h : Built ms c) : Built (ms ++ [m]) c := by
  obtain ⟨pre, k, mid, b, rfl, hb⟩ := h
  exact ⟨pre, k, mid ++ [m], b, by simp, hb⟩

theorem built_last {b : Bss} (h : m.Builds b c) : Built (ms ++ [m]) c := ⟨ms, m, [], b, rfl, h⟩

theorem latest_of_joined (h : ms.foldl Step.joined false = true) :
    latest Step.associated? ms ≠ none := by
  induction ms using List.reverseRecOn with
  | nil => cases h
  | append_singleton ms m ih =>
    rw [List.foldl_append, List.foldl_cons, List.foldl_nil, Step.joined, Bool.or_eq_true] at h
    rw [latest_concat]
    rcases h with h | h
    · obtain ⟨w, hw⟩ := Option.isSome_iff_exists.mp h
      simp [hw]
    · simp only [Bool.and_eq_true] at h
      simp [ih h.1.1]

theorem ReleasesEarned.concat (h : ReleasesEarned (ms ++ [m])) : ReleasesEarned ms ∧
    ((∃ body, m.message = .event .portRelease body) → ms.foldl Step.joined false = true) :=
  ⟨fun pre x post hs ↦ h pre x (post ++ [m]) (by rw [hs]; simp), h ms m [] rfl⟩

variable [Platform σ] {s t : Session σ}

theorem Path.traced (h : Path s ms t) (hs : s.driver.station.Sound)
    (h0 : s.driver.channel.staged = none) : Traced ms t := by
  refine h.rec_snoc (P := Traced) ⟨fun c hc ↦ ?_, fun w hw ↦ ?_⟩ fun ms m hp hg ih ↦ ?_
  · rw [h0] at hc
    cases hc
  · cases hw
  · have hsound := hp.sound hs
    refine ⟨fun c hc ↦ ?_, fun w hw ↦ ?_⟩
    · rcases hg.builds_or_held hsound hc with ⟨b, hb⟩ | hb
      · exact built_last hb
      · exact (ih.staged c hb).concat
    · rw [latest_concat] at hw
      cases hm : m.associated? with
      | none =>
        rw [hm] at hw
        obtain ⟨c, hc, he⟩ := ih.written w hw
        exact ⟨c, hc.concat, he⟩
      | some v =>
        rw [hm] at hw
        obtain rfl : v = w := Option.some.inj hw
        rcases hg.builds_or_staged hsound (Step.mem_associations hm) with
          ⟨b, c, hb, he⟩ | ⟨c, hc, he⟩
        · exact ⟨c, built_last hb, he⟩
        · exact ⟨c, (ih.staged c hc).concat, he⟩

theorem Path.recorded (h : Path s ms t) (hs : s.driver.station.Sound) :
    t.recorded = (latest Step.records? ms).getD s.recorded := by
  refine h.rec_snoc (P := fun ms t ↦ t.recorded = (latest Step.records? ms).getD s.recorded) rfl
    fun ms m hp hg ih ↦ ?_
  rw [hg.recorded (hp.sound hs), latest_concat, ih]
  cases m.records? <;> rfl

theorem Path.associated (h : Path s ms t) (hs : s.driver.station.Sound)
    (h0 : s.status ≠ .connected) (hr : ReleasesEarned ms) (hc : t.status = .connected) :
    latest Step.associated? ms ≠ none := by
  revert hr hc
  refine h.rec_snoc (P := fun ms t ↦ ReleasesEarned ms → t.status = .connected →
    latest Step.associated? ms ≠ none) (fun _ hc ↦ absurd hc h0) fun ms m hp hg ih hr hc ↦ ?_
  obtain ⟨hms, hm⟩ := hr.concat
  have hold : latest Step.associated? ms ≠ none := by
    by_cases hb : m.before.status = .connected
    · exact ih hms hb
    · exact latest_of_joined (hm ((hg.effect (hp.sound hs)).1.released hb hc))
  rw [latest_concat]
  cases m.associated? with
  | none => exact hold
  | some w => simp

end Runs

theorem Command.at?_frame (c : Command) :
    Mac.at? c.frame CommandHeader.length = Mac.ofBytes? c.body := by
  rw [Mac.at?, frame, List.drop_left' (CommandHeader.length_toBytes _)]

open Session ScriptedChip

/-- What a driver that is connected asks for goes to the access point that it has recorded. -/
theorem disconnect_writes {σ : Type} [Platform σ] {s : Session σ} (hs : s.driver.station.Sound)
    (hc : s.status = .connected) : ∃ (c : Command) (base : UInt32) (o : Except Errno Unit),
      c.id = .deauthenticate ∧ Mac.at? c.frame CommandHeader.length = some s.recorded ∧
      (perform .disconnect s).2.link.past = c.written base o :: s.link.past := by
  let body := s.recorded.toBytes ++ le16 Dot11.Reason.stationLeaving
  have hlen : body.length ≤ maxBody := by simp [body, maxBody, maxFrame, CommandHeader.length]
  let c : Command := ⟨.deauthenticate, CommandId.deauthenticate.role, body, hlen⟩
  have he : Command.encode .deauthenticate .get []
      ⟨s.recorded, s.driver.connection.target.capability⟩ = .ok c := by
    have ho : Command.ofBody .deauthenticate body = .ok c := dif_pos hlen
    exact ho
  have hd : perform .disconnect s = sendCommand c s := by
    simp only [perform, disconnect, bind_apply, view_apply, hc, if_true]
    exact issue_of_encode (by decide) he
  obtain ⟨o, -, -, hl⟩ := sendCommand_issues hs.free c
  exact ⟨c, s.driver.base, o, rfl, c.at?_frame, by rw [hd, hl]⟩

/-- Where the chip lets data through only when it may, a driver that is connected has written an
association, and recorded its network when it picked it. It still has that address exactly if
whatever was recorded since, when another network was picked or a newer request went through, is the
same. -/
theorem recorded_peer {σ : Type} [Platform σ] {config : Config} {firmware : FirmwareSource}
    {device : σ} {calls : List Call} {ms post : List (Step σ)}
    (h : steps calls (fresh config firmware device) = ms ++ post) (hr : ReleasesEarned ms)
    (hc : ((fresh config firmware device).after ms).status = .connected) :
    let s := (fresh config firmware device).after ms
    (∃ pre k mid b c, ms = pre ++ k :: mid ∧ k.Builds b c ∧
      latest Step.associated? ms = some c.frame ∧
      Mac.at? c.frame CommandHeader.length = some b.bssid ∧
      (s.recorded = b.bssid ↔ ∀ x ∈ latest Step.records? mid, x = b.bssid)) ∧
    ∃ (c : Command) (base : UInt32) (o : Except Errno Unit), c.id = .deauthenticate ∧
      Mac.at? c.frame CommandHeader.length = some s.recorded ∧
      (perform .disconnect s).2.link.past = c.written base o :: s.link.past := by
  intro s
  have hp := steps_path calls (fresh config firmware device)
  rw [h] at hp
  obtain ⟨t, hms, -⟩ := hp.split
  have hst : s = t := after_of_path hms
  have hsound : (fresh config firmware device).driver.station.Sound := fresh_sound _ _ _
  have hts := hms.sound hsound
  rw [← hst] at hts hms
  refine ⟨?_, disconnect_writes hts hc⟩
  have hstart : (fresh config firmware device).status ≠ .connected := fun h ↦ by cases h
  obtain ⟨w, hw⟩ := Option.ne_none_iff_exists'.mp (hms.associated hsound hstart hr hc)
  obtain ⟨c, ⟨pre, k, mid, b, rfl, hb⟩, rfl⟩ := (hms.traced hsound rfl).written w hw
  obtain ⟨hpre, hg, hmid⟩ := hms.around
  have hk := hpre.sound hsound
  have hrec := hmid.recorded ((hg.effect hk).1.sound hk)
  rw [hg.recorded_of_picked hk hb.1] at hrec
  refine ⟨pre, k, mid, b, c, rfl, hb, hw, ?_, ?_⟩
  · rw [Command.at?_frame, associationCommand_bssid hb.2]
  · rw [hrec]
    cases latest Step.records? mid <;> simp

theorem recorded_peer_associated :
    let calls := [.connect [65] [], .serviceInterrupt, .serviceInterrupt]
    let frames := [response .scan 0 openNetwork, event .portRelease]
    let s := (start frames).after (stepsOf calls frames)
    ReleasesEarned (stepsOf calls frames) ∧ s.status = .connected ∧
      ∃ pre k mid b c, stepsOf calls frames = pre ++ k :: mid ∧ k.Builds b c ∧
        latest Step.associated? (stepsOf calls frames) = some c.frame ∧
        Mac.at? c.frame CommandHeader.length = some b.bssid ∧
        (s.recorded = b.bssid ↔ ∀ x ∈ latest Step.records? mid, x = b.bssid) := by
  intro calls frames s
  have hr : ReleasesEarned (stepsOf calls frames) := by decide +kernel
  have hc : s.status = .connected := by decide +kernel
  have h : stepsOf calls frames = stepsOf calls frames ++ [] := (List.append_nil _).symm
  exact ⟨hr, hc, (recorded_peer h hr hc).1⟩

/-- The association with "A" comes through when "B" has been asked for. -/
theorem recorded_peer_forgotten :
    let calls := [.connect [65] [], .serviceInterrupt, .connect [66] [], .serviceInterrupt]
    let frames := [response .scan 0 openNetwork, event .portRelease]
    let s := (start frames).after (stepsOf calls frames)
    ReleasesEarned (stepsOf calls frames) ∧ s.status = .connected ∧
      (latest Step.associated? (stepsOf calls frames)).bind (Mac.at? · CommandHeader.length) =
        some ⟨0xA0, 1, 2, 3, 4, 5⟩ ∧
      s.recorded = .zero := by
  decide +kernel

end SdioWlan
