import SdioWlan.Proofs.Outcome

namespace SdioWlan

def Action.stationLink? : Action → Option Bool
  | .stack (.linkUp .sta) => some true
  | .stack (.linkDown .sta) => some false
  | _ => none

/-- What the stack was told last. Before it is told anything the link is down. -/
def stationLinkUp (past : List Action) : Bool :=
  (past.filterMap Action.stationLink?).headD false

def Session.Mirrored {σ : Type} (s : Session σ) : Prop :=
  stationLinkUp s.link.past = true ↔ s.status = .connected

namespace Step

variable {σ : Type}

def stationLinks (m : Step σ) : List Bool := m.actions.filterMap Action.stationLink?

structure Notified (m : Step σ) : Prop where
  up : m.before.status ≠ .connected → m.after.status = .connected → m.stationLinks = [true]
  down : m.before.status = .connected → m.after.status ≠ .connected → m.stationLinks = [false]

/-- A connection ends because the chip has shut down, or because an association that had waited for
a key since before the connection cannot be written. -/
def Drops (m : Step σ) : Prop :=
  m.before.status = .connected ∧
    (m.LosesAssociation ∨ ∃ body, m.message = .response .funcShutdown 0 body)

def Settles (m : Step σ) : Prop :=
  ∃ body, m.message = .event .portRelease body ∨ m.message = .event .deauthenticated body

end Step

/-- Since the last step that dropped a connection an event has said how it stands. -/
def Settled {σ : Type} (ms : List (Step σ)) : Prop :=
  ∀ a x b, ms = a ++ x :: b → x.Drops → ∃ y ∈ b, y.Settles

theorem settled_nil {σ : Type} : Settled ([] : List (Step σ)) := by
  intro a x b h
  cases a <;> cases h

theorem settled_concat {σ : Type} {ms : List (Step σ)} {m : Step σ} :
    Settled (ms ++ [m]) ↔ ¬ m.Drops ∧ (m.Settles ∨ Settled ms) := by
  constructor
  · intro h
    refine ⟨fun hd ↦ ?_, ?_⟩
    · obtain ⟨y, hy, -⟩ := h ms m [] rfl hd
      cases hy
    · by_cases hm : m.Settles
      · exact .inl hm
      refine .inr fun a x b he hx ↦ ?_
      obtain ⟨y, hy, hs⟩ := h a x (b ++ [m]) (by rw [he]; simp) hx
      rcases List.mem_append.mp hy with hb | hb
      · exact ⟨y, hb, hs⟩
      · rw [List.mem_singleton.mp hb] at hs
        exact absurd hs hm
  · rintro ⟨hd, hs⟩ a x b he hx
    rcases List.eq_nil_or_concat b with rfl | ⟨b, y, rfl⟩
    · obtain ⟨-, hm⟩ := List.append_inj' he rfl
      cases hm
      exact absurd hx hd
    · rw [List.concat_eq_append, ← List.cons_append, ← List.append_assoc] at he
      obtain ⟨hb, hm⟩ := List.append_inj' he rfl
      cases hm
      rcases hs with hs | hs
      · exact ⟨m, by simp, hs⟩
      · obtain ⟨y, hy, hys⟩ := hs a x b hb hx
        exact ⟨y, by simp [hy], hys⟩

theorem stationLinks_of_calm {l : List Action} (h : ∀ x ∈ l, x.Calm) :
    l.filterMap Action.stationLink? = [] := by
  rw [List.filterMap_eq_nil_iff]
  intro x hx
  have hc := h x hx
  cases x with
  | access a => rfl
  | report r => rfl
  | stack c =>
    cases c with
    | linkUp role | linkDown role =>
      cases role with
      | sta => cases hc
      | uap => rfl
    | _ => rfl

namespace Station

variable {a b : Station} {o : Except DriverError Unit} {l : List Action} {why : ConnectFailure}

theorem Scans.stationLinks (h : a.Scans o l b) : l.filterMap Action.stationLink? = [] :=
  h.filterMap_eq_nil fun _ _ _ _ ↦ rfl

theorem Joins.stationLinks {n : Bss} (h : a.Joins n o l b) :
    l.filterMap Action.stationLink? = [] :=
  h.filterMap_eq_nil fun _ _ _ ↦ rfl

theorem Fails.stationLinks (h : a.Fails why l b) : l.filterMap Action.stationLink? = [] :=
  h.filterMap_eq_nil (fun _ _ _ _ ↦ rfl) fun _ ↦ rfl

theorem Fails.not_connected (h : a.Fails why l b) : b.connection.status ≠ .connected := by
  rcases h.connectOutcomes with ⟨-, hs, -⟩ | ⟨hs, -⟩ <;> rw [hs] <;> simp

end Station

/-- How a reaction to a message moves the connection and the station's link. A message that settles
nothing tells the stack nothing, and can only end a connection. -/
structure Unsettling (msg : Message) (a : Station) (l : List Action) (b : Station) : Prop where
  links : l.filterMap Action.stationLink? = []
  ended : b.connection.status = .connected → a.connection.status = .connected
  kept : a.connection.status = .connected → b.connection.status ≠ .connected →
    (∃ body, msg = .response .supplicantPmk 0 body ∧
      ∃ c ∈ a.staged, ∃ base e, c.written base (.error e) ∈ l) ∨
    ∃ body, msg = .response .funcShutdown 0 body

theorem Unsettling.of_same {msg : Message} {a b : Station} {l : List Action}
    (hl : l.filterMap Action.stationLink? = [])
    (h : b.connection.status = a.connection.status) : Unsettling msg a l b :=
  ⟨hl, fun hb ↦ h ▸ hb, fun ha hb ↦ absurd (h.trans ha) hb⟩

theorem Unsettling.of_connecting {msg : Message} {a b : Station} {l : List Action}
    (hl : l.filterMap Action.stationLink? = []) (ha : a.connection.status ≠ .connected)
    (hb : b.connection.status ≠ .connected) : Unsettling msg a l b :=
  ⟨hl, fun h ↦ absurd h hb, fun h ↦ absurd h ha⟩

theorem Reaction.unsettling {msg : Message} {a b : Station} {l : List Action}
    (h : Reaction msg a l b) (hr : ∀ body, msg ≠ .event .portRelease body)
    (hd : ∀ body, msg ≠ .event .deauthenticated body) : Unsettling msg a l b := by
  have hc {c : Connection} (hs : c.status = .connecting) : c.status ≠ .connected := by
    rw [hs]
    simp
  cases h with
  | idle _ hl => exact .of_same (stationLinks_of_calm hl) rfl
  | scanned _ hl =>
    have hcalm := Action.calm_of_scanResult hl
    exact .of_same (stationLinks_of_calm hcalm) (Connection.scanAnswered_status _)
  | scanFailed hv hf =>
    exact .of_connecting hf.stationLinks (hc (Connection.status_of_connect hv)) hf.not_connected
  | joined hv _ hj =>
    exact .of_same hj.stationLinks (hj.status.trans (Connection.scanAnswered_status _))
  | unjoined hv _ hj hf =>
    refine .of_connecting ?_ (hc (Connection.status_of_connect hv)) hf.not_connected
    rw [List.filterMap_append, hf.stationLinks, hj.stationLinks]
    rfl
  | unheeded => exact .of_same rfl rfl
  | rejected hs _ hf => exact .of_connecting hf.stationLinks (hc hs) hf.not_connected
  | flushed => exact .of_same rfl rfl
  | unflushed hs base e hf =>
    refine ⟨?_, fun h ↦ absurd h hf.not_connected, fun _ _ ↦ .inl ⟨_, rfl, _, hs, base, e, ?_⟩⟩
    · rw [List.filterMap_append, hf.stationLinks]
      rfl
    · simp
  | shutDown hl =>
    refine ⟨stationLinks_of_calm hl, fun h ↦ ?_, fun _ _ ↦ .inr ⟨_, rfl⟩⟩
    cases h
  | deauthenticated => exact absurd rfl (hd _)
  | released => exact absurd rfl (hr _)

theorem Deed.unsettling {ready : Bool} {c : Call} {o : Except DriverError Unit} {a b : Station}
    {l : List Action} (h : Deed ready c o a l b) : Unsettling .other a l b := by
  cases h with
  | idle _ hl => exact .of_same (stationLinks_of_calm hl) rfl
  | scanned _ _ hs => exact .of_same hs.stationLinks hs.status
  | refused => exact .of_same rfl rfl
  | connected _ hq hs =>
    obtain ⟨hn, rfl⟩ := Connection.status_of_request hq
    refine .of_connecting hs.stationLinks hn ?_
    rw [hs.status]
    simp [Station.move]
  | aborted _ hq hs =>
    refine .of_connecting hs.stationLinks (Connection.status_of_request hq).1 fun h ↦ ?_
    cases h

theorem Reaction.not_connected {msg : Message} {a b : Station} {l : List Action}
    (h : Reaction msg a l b)
    (hm : (∃ body, msg = .response .supplicantPmk 0 body ∧
        ∃ c ∈ a.staged, ∃ base e, c.written base (.error e) ∈ l) ∨
      ∃ body, msg = .response .funcShutdown 0 body) : b.connection.status ≠ .connected := by
  rcases hm with ⟨body, rfl, c, hc, base, e, hw⟩ | ⟨body, rfl⟩
  · cases h with
    | idle hi => cases hi.1
    | unheeded _ _ hs =>
      rw [hs rfl rfl] at hc
      cases hc
    | rejected _ _ hf => exact hf.not_connected
    | flushed => simp [Command.written] at hw
    | unflushed _ _ _ hf => exact hf.not_connected
  · cases h with
    | idle hi => exact absurd ⟨rfl, rfl⟩ hi.2
    | unheeded hi => rcases hi with hi | hi <;> cases hi
    | rejected _ he hf => exact hf.not_connected
    | shutDown =>
      intro h
      cases h

namespace Step

variable {σ : Type} {m : Step σ}

theorem Effect.settling (h : m.Effect) (hs : m.Settles) :
    m.after.status = .connected ∧ m.stationLinks = [true] ∨
      m.after.status = .notConnected ∧ m.stationLinks = [false] := by
  have hm : m.message ≠ .other := by
    obtain ⟨body, h | h⟩ := hs <;> simp [h]
  cases h with
  | bus ht | powered ht | call ht => exact absurd (by simp only [message, ht]) hm
  | frame ht hr =>
    have hl : m.stationLinks = m.actions.filterMap Action.stationLink? := rfl
    have hb : m.after.status = m.after.driver.station.connection.status := rfl
    obtain ⟨body, hs | hs⟩ := hs
    · rw [hs] at hr
      generalize m.actions = l, m.before.driver.station = a, m.after.driver.station = b
        at hr hl hb
      cases hr with
      | idle hi => exact absurd rfl hi.2
      | released => exact .inl ⟨hb, hl⟩
    · rw [hs] at hr
      generalize m.actions = l, m.before.driver.station = a, m.after.driver.station = b
        at hr hl hb
      cases hr with
      | idle hi => exact absurd rfl hi.1
      | deauthenticated => exact .inr ⟨hb, hl⟩

theorem not_drops_of_settles (hs : m.Settles) : ¬ m.Drops := by
  obtain ⟨body, hs⟩ := hs
  rintro ⟨-, ⟨body', h, -⟩ | ⟨body', h⟩⟩ <;> rw [h] at hs <;> rcases hs with hs | hs <;> cases hs

theorem Effect.unsettling (h : m.Effect) (hs : ¬ m.Settles) :
    m.stationLinks = [] ∧ (m.after.status = .connected → m.before.status = .connected) ∧
      (m.Drops ↔ m.before.status = .connected ∧ m.after.status ≠ .connected) := by
  have hother (hm : m.message = .other)
      (hu : Unsettling .other m.before.driver.station m.actions m.after.driver.station) :
      m.stationLinks = [] ∧ (m.after.status = .connected → m.before.status = .connected) ∧
        (m.Drops ↔ m.before.status = .connected ∧ m.after.status ≠ .connected) := by
    refine ⟨hu.links, hu.ended, iff_of_false ?_ fun hd ↦ ?_⟩
    · rintro ⟨-, ⟨body, h, -⟩ | ⟨body, h⟩⟩ <;> rw [hm] at h <;> cases h
    · rcases hu.kept hd.1 hd.2 with ⟨body, h, -⟩ | ⟨body, h⟩ <;> cases h
  cases h with
  | bus ht hb hl =>
    refine hother (by simp only [message, ht]) (.of_same ?_ (congrArg (·.connection.status) hb))
    rw [List.filterMap_eq_nil_iff]
    intro x hx
    obtain ⟨a, rfl⟩ := hl x hx
    rfl
  | powered ht hb hl =>
    exact hother (by simp only [message, ht])
      (.of_same (stationLinks_of_calm hl) (congrArg (·.connection.status) hb))
  | call ht hd => exact hother (by simp only [message, ht]) hd.unsettling
  | frame ht hr =>
    have hu := hr.unsettling (fun body h ↦ hs ⟨body, .inl h⟩) fun body h ↦ hs ⟨body, .inr h⟩
    refine ⟨hu.links, hu.ended, fun hd ↦ ⟨hd.1, hr.not_connected hd.2⟩, fun hd ↦ ⟨hd.1, ?_⟩⟩
    exact hu.kept hd.1 hd.2

theorem Effect.notified_iff (h : m.Effect) : m.Notified ↔ ¬ m.Drops := by
  by_cases hs : m.Settles
  · refine iff_of_true ?_ (not_drops_of_settles hs)
    rcases h.settling hs with ⟨hc, hl⟩ | ⟨hc, hl⟩
    · exact ⟨fun _ _ ↦ hl, fun _ hn ↦ absurd hc hn⟩
    · refine ⟨fun _ hn ↦ ?_, fun _ _ ↦ hl⟩
      rw [hc] at hn
      cases hn
  · obtain ⟨hl, hc, hd⟩ := h.unsettling hs
    rw [hd]
    refine ⟨fun hn hb ↦ ?_, fun hn ↦ ⟨fun hb ha ↦ absurd (hc ha) hb, fun hb ha ↦ ?_⟩⟩
    · have hw := hl.symm.trans (hn.down hb.1 hb.2)
      cases hw
    · exact absurd ⟨hb, ha⟩ hn

end Step

/-- Once a connection stands the stack has been told, and it is right as long as the last step that
dropped one has been made good. -/
structure LinkKept {σ : Type} (ms : List (Step σ)) (s : Session σ) : Prop where
  told : s.status = .connected → stationLinkUp s.link.past = true
  right : s.Mirrored ↔ Settled ms

theorem stationLinkUp_after {σ : Type} {m : Step σ}
    (h : m.after.link.past = m.actions ++ m.before.link.past) :
    stationLinkUp m.after.link.past =
      m.stationLinks.headD (stationLinkUp m.before.link.past) := by
  rw [stationLinkUp, h, List.filterMap_append]
  unfold Step.stationLinks
  cases m.actions.filterMap Action.stationLink? <;> rfl

theorem LinkKept.step {σ : Type} {ms : List (Step σ)} {m : Step σ} (h : LinkKept ms m.before)
    (he : m.Effect) (hp : m.after.link.past = m.actions ++ m.before.link.past) :
    LinkKept (ms ++ [m]) m.after := by
  have hup := stationLinkUp_after hp
  by_cases hs : m.Settles
  · have hset : Settled (ms ++ [m]) :=
      settled_concat.mpr ⟨Step.not_drops_of_settles hs, .inl hs⟩
    rcases he.settling hs with ⟨hc, hl⟩ | ⟨hc, hl⟩ <;> rw [hl] at hup
    · exact ⟨fun _ ↦ hup, iff_of_true (iff_of_true hup hc) hset⟩
    · have hn : m.after.status ≠ .connected := by
        rw [hc]
        intro h
        cases h
      exact ⟨fun ha ↦ absurd ha hn, iff_of_true (iff_of_false (by simp [hup]) hn) hset⟩
  · obtain ⟨hl, hc, hd⟩ := he.unsettling hs
    rw [hl] at hup
    refine ⟨fun ha ↦ hup.trans (h.told (hc ha)), ?_⟩
    rw [settled_concat, hd, Session.Mirrored, hup]
    simp only [hs, false_or, ← h.right, Session.Mirrored, List.headD_nil]
    by_cases ha : m.after.status = .connected
    · simp [ha, hc ha]
    · by_cases hb : m.before.status = .connected
      · simp [ha, hb, h.told hb]
      · simp [ha, hb]

open Session ScriptedChip

namespace Session

def after {σ : Type} (s : Session σ) (ms : List (Step σ)) : Session σ :=
  (ms.getLast?.map (·.after)).getD s

theorem after_of_path {σ : Type} [Platform σ] {s t : Session σ} {ms : List (Step σ)}
    (h : Path s ms t) : s.after ms = t := by
  refine h.rec_snoc (P := fun ms t ↦ s.after ms = t) rfl fun ms m _ _ _ ↦ ?_
  simp only [after, List.getLast?_concat]
  rfl

end Session

theorem Path.linkKept {σ : Type} [Platform σ] {config : Config} {firmware : FirmwareSource}
    {device : σ} {ms : List (Step σ)} {t : Session σ}
    (h : Path (fresh config firmware device) ms t) : LinkKept ms t := by
  have hs : (fresh config firmware device).status = .notConnected := rfl
  have hn : (fresh config firmware device).status ≠ .connected := by
    rw [hs]
    intro h
    cases h
  have hl : stationLinkUp (fresh config firmware device).link.past = false := rfl
  have h0 : LinkKept [] (fresh config firmware device) :=
    ⟨fun h ↦ absurd h hn, iff_of_true (iff_of_false (by simp [hl]) hn) settled_nil⟩
  apply h.rec_snoc h0
  intro ms m hp hg ih
  obtain ⟨he, hl⟩ := hg.effect (hp.sound (fresh_sound _ _ _))
  exact ih.step he hl

/-- In every state of every run the stack is right about the station's link exactly if the last
step that dropped a connection has been made good, and exactly the steps that drop one keep the
stack in the dark. -/
theorem link_mirrored {σ : Type} [Platform σ] {config : Config} {firmware : FirmwareSource}
    {device : σ} {calls : List Call} {ms post : List (Step σ)}
    (h : steps calls (fresh config firmware device) = ms ++ post) :
    (((fresh config firmware device).after ms).Mirrored ↔ Settled ms) ∧
      ∀ m ∈ ms, m.Notified ↔ ¬ m.Drops := by
  have hp := steps_path calls (fresh config firmware device)
  rw [h] at hp
  obtain ⟨t, hp, -⟩ := hp.split
  refine ⟨?_, fun m hm ↦ ?_⟩
  · rw [after_of_path hp]
    exact hp.linkKept.right
  · obtain ⟨a, b, rfl⟩ := List.append_of_mem hm
    obtain ⟨ha, hg, -⟩ := hp.around
    exact (hg.effect (ha.sound (fresh_sound _ _ _))).1.notified_iff

theorem link_mirrored_released :
    ∃ ms post, stepsOf [.connect [65] [], .serviceInterrupt] [event .portRelease] = ms ++ post ∧
      ((start [event .portRelease]).after ms).status = .connected ∧
      (((start [event .portRelease]).after ms).Mirrored ↔ Settled ms) := by
  obtain ⟨pre, m, post, h, -, hm⟩ := exists_step
    (stepsOf [.connect [65] [], .serviceInterrupt] [event .portRelease]) 21 (·.after.status)
    (a := .connected) (by decide +kernel)
  have hs : stepsOf [.connect [65] [], .serviceInterrupt] [event .portRelease] =
      (pre ++ [m]) ++ post := by rw [h, List.append_assoc, List.singleton_append]
  refine ⟨pre ++ [m], post, hs, ?_, (link_mirrored hs).1⟩
  simpa only [Session.after, List.getLast?_concat, Option.map_some, Option.getD_some] using hm

/-- The chip shuts down, and the stack goes on as if there were a connection. -/
theorem link_up_after_shutdown :
    ∃ pre m post, stepsOf [.connect [65] [], .serviceInterrupt, .shutdown, .serviceInterrupt]
        [event .portRelease, response .funcShutdown 0 []] = pre ++ m :: post ∧
      ¬ m.after.Mirrored := by
  obtain ⟨pre, m, post, h, -, hm⟩ := exists_step
    (stepsOf [.connect [65] [], .serviceInterrupt, .shutdown, .serviceInterrupt]
      [event .portRelease, response .funcShutdown 0 []]) 26
    (fun m ↦ (m.after.status, stationLinkUp m.after.link.past)) (a := (.notConnected, true))
    (by decide +kernel)
  simp only [Prod.mk.injEq] at hm
  refine ⟨pre, m, post, h, fun hr ↦ ?_⟩
  have hs := hr.mp hm.2
  rw [hm.1] at hs
  cases hs

end SdioWlan
