import SdioWlan.Proofs.Bootstrap.Detached
import SdioWlan.Proofs.Station.Inversion

namespace SdioWlan

/-- The body has the field for which the driver sends the command. -/
def Reply.complete (id : CommandId) (body : Bytes) : Bool :=
  match id with
  | .getHwSpec => (endPort? body).isSome
  | .macAddr => (address? body).isSome
  | _ => true

def Message.Unrelated : Message → Prop
  | response id result _ => id.boots = false ∧ ¬ (id = .funcShutdown ∧ result = 0)
  | event _ _ | other => True

namespace Bootstrap

inductive Sends (next : CommandId) (stage : BootStage) :
    Except DriverError Unit → List Action → Bootstrap → Prop
  | sent {c : Command} (hc : c.id = next) (base : UInt32) :
      Sends next stage (.ok ()) [c.written base (.ok ())] ⟨stage, none⟩
  | refused {c : Command} (hc : c.id = next) (base : UInt32) (e : Errno) :
      Sends next stage (.error (.transfer e))
        [.report (.initialized (.error (.transfer e))), c.written base (.error e)] ⟨.failed, none⟩

/-- What a message does to the bootstrap. -/
inductive Reacts (b : Bootstrap) :
    Message → Except DriverError Unit → List Action → Bootstrap → Prop
  | unrelated {msg : Message} {o : Except DriverError Unit} {l : List Action}
      (h : msg.Unrelated) (hl : ∀ x ∈ l, x.Detached) : Reacts b msg o l b
  | shutDown {body : Bytes} :
      Reacts b (.response .funcShutdown 0 body) (.ok ())
        [.report (.initialized (.error .invalidState))] .reset
  | late {id : CommandId} {result : UInt8} {body : Bytes} (hi : id.boots) (hr : result ≠ 0)
      (h : b.isReady) :
      Reacts b (.response id result body) (.error (.rejected id.code result)) [] b
  | rejected {id : CommandId} {result : UInt8} {body : Bytes} (hi : id.boots) (hr : result ≠ 0)
      (h : b.isReady = false) :
      Reacts b (.response id result body) (.error (.rejected id.code result))
        [.report (.initialized (.error (.rejected id.code result)))] b.fail
  | malformed {id : CommandId} {body : Bytes} (hi : id.boots) (h : Reply.complete id body = false) :
      Reacts b (.response id 0 body) (.error .malformedFrame) [] b
  | unawaited {id : CommandId} {body : Bytes} (hi : id.boots) (h : Reply.complete id body)
      (ha : b.stage.awaited? ≠ some id) : Reacts b (.response id 0 body) (.ok ()) [] b
  | advanced {id next : CommandId} {stage : BootStage} {body : Bytes}
      {o : Except DriverError Unit} {l : List Action} {c : Bootstrap}
      (h : Reply.complete id body) (hs : b.stage.step? = some (id, stage))
      (hn : stage.awaited? = some next) (hc : Sends next stage o l c) :
      Reacts b (.response id 0 body) o l c
  | completed {mac : Mac} {body : Bytes} (h : Reply.address? body = some mac)
      (hs : b.stage = .awaitMacAddr) :
      Reacts b (.response .macAddr 0 body) (.ok ())
        [.report (.initialized (.ok mac)), .stack (.interfaceUp mac)] ⟨.ready, none⟩

theorem advance_of_not_awaited {b : Bootstrap} {id : CommandId}
    (h : b.stage.awaited? ≠ some id) : b.advance id = (.notMine, b) := by
  unfold advance
  cases hs : b.stage.step? with
  | none => rfl
  | some p =>
    have hp : id ≠ p.1 := by
      rintro rfl
      exact h (by rw [BootStage.awaited?, hs]; rfl)
    simp only [hp, if_false]

theorem advance_of_step {b : Bootstrap} {id next : CommandId} {stage : BootStage}
    (h : b.stage.step? = some (id, stage)) (hn : stage.awaited? = some next) :
    b.advance id = (.next next, ⟨stage, some next⟩) := by
  simp only [advance, h, if_true, hn]

end Bootstrap

/-- Each stage waits for a command of the bootstrap, and only the last one has no successor that
waits. -/
theorem BootStage.step?_cases {s stage : BootStage} {id : CommandId}
    (h : s.step? = some (id, stage)) : id.boots ∧
      ((∃ next, stage.awaited? = some next) ∨
        s = .awaitMacAddr ∧ id = .macAddr ∧ stage = .ready) := by
  cases s <;> cases h <;> simp [CommandId.boots, awaited?, step?]

theorem BootStage.awaited?_boots {stage : BootStage} {id : CommandId}
    (h : stage.awaited? = some id) : id.boots ∧ stage ≠ .ready := by
  cases stage <;> cases h <;> simp [CommandId.boots]

theorem BootStage.step?_of_awaited? {s : BootStage} {id : CommandId} (h : s.awaited? = some id) :
    ∃ stage, s.step? = some (id, stage) := by
  obtain ⟨p, hp, rfl⟩ := Option.map_eq_some_iff.mp h
  exact ⟨p.2, hp⟩

theorem Command.encode_of_boots {id : CommandId} (h : id.boots) (peer : Peer) :
    ∃ c, encode id .get [] peer = .ok c := by
  cases id with
  | funcInit | macControl | getHwSpec | macAddr => exact ⟨_, rfl⟩
  | _ => cases h

namespace Session

variable {σ : Type}

/-- Work ends with an outcome, some actions and a bootstrap that fit together. -/
def Steers (R : Except DriverError Unit → List Action → Bootstrap → Prop) (s : Session σ)
    (r : Except DriverError Unit × Session σ) : Prop :=
  ∃ l, R r.1 l r.2.driver.boot ∧ r.2.link.past = l ++ s.link.past

theorem Detached.steers {s : Session σ} {r : Except DriverError Unit × Session σ}
    (h : Detached s r.2) :
    Steers (fun _ l b ↦ b = s.driver.boot ∧ ∀ x ∈ l, x.Detached) s r := by
  obtain ⟨hk, l, hl, hl'⟩ := h
  exact ⟨l, ⟨hk, hl'⟩, hl⟩

theorem learn_of_incomplete {id : CommandId} {body : Bytes}
    (h : Reply.complete id body = false) (s : Session σ) :
    learn id body s = (.error .malformedFrame, s) := by
  cases id with
  | getHwSpec =>
    have hn : Reply.endPort? body = none := by simpa [Reply.complete] using h
    simp only [learn, bind_apply, liftM_apply, hn, required]
  | macAddr =>
    have hn : Reply.address? body = none := by simpa [Reply.complete] using h
    simp only [learn, bind_apply, liftM_apply, hn, required]
  | _ => cases h

theorem learn_of_complete {id : CommandId} {body : Bytes} (h : Reply.complete id body)
    (s : Session σ) :
    ∃ d, learn id body s = (.ok (), ⟨d, s.link⟩) ∧ d.boot = s.driver.boot ∧
      d.channel = s.driver.channel ∧ (id = .macAddr → Reply.address? body = some d.mac) := by
  cases id with
  | getHwSpec =>
    obtain ⟨last, hl⟩ := Option.isSome_iff_exists.mp h
    simp only [learn, bind_apply, liftM_apply, hl, required]
    exact ⟨_, rfl, rfl, rfl, by simp⟩
  | macAddr =>
    obtain ⟨mac, hm⟩ := Option.isSome_iff_exists.mp h
    simp only [learn, bind_apply, liftM_apply, hm, required]
    exact ⟨_, rfl, rfl, rfl, fun _ ↦ rfl⟩
  | _ => exact ⟨s.driver, rfl, rfl, rfl, by simp⟩

variable [Platform σ] {s : Session σ}

theorem issue_of_boots (hf : s.driver.channel.held = false) {id : CommandId} (h : id.boots) :
    ∃ c o device, c.id = id ∧ issue id .get [] s = (o.mapError .transfer,
      ⟨s.driver.written c o, ⟨device, c.written s.driver.base o :: s.link.past⟩⟩) := by
  have hid : id ≠ .scan ∧ id ≠ .associate := by
    constructor <;>
    · rintro rfl
      cases h
  obtain ⟨c, hc⟩ := Command.encode_of_boots h
    ⟨s.driver.connection.target.bssid, s.driver.connection.target.capability⟩
  have hi : c.id = id := (Command.encode_id hc).1
  obtain ⟨o, device, ho⟩ := sendCommand_of_not_held hf c
  refine ⟨c, o, device, hi, ?_⟩
  rw [Driver.sent_of_not (.inr (by rw [hi]; exact hid.1))] at ho
  rw [issue_of_encode hid.2 hc, ho]

/-- The command that lies ready is taken and sent. -/
theorem pumpBootstrap_sends (hf : s.driver.channel.held = false) {id : CommandId}
    {stage : BootStage} (hn : s.driver.boot = ⟨stage, some id⟩) (hi : id.boots)
    (hr : stage ≠ .ready) : Steers (Bootstrap.Sends id stage) s (pumpBootstrap s) := by
  simp only [pumpBootstrap, bind_apply, view_apply, update_apply, hn, Bootstrap.take,
    tryCatch_apply]
  generalize hu : ({ s with driver := { s.driver with boot := ⟨stage, none⟩ } } : Session σ) = u
  have hp : u.link.past = s.link.past := by rw [← hu]
  have hb : u.driver.boot = ⟨stage, none⟩ := by rw [← hu]
  obtain ⟨c, o, device, hc, ho⟩ := issue_of_boots (s := u) (by rw [← hu]; exact hf) hi
  rw [ho]
  have hw : (u.driver.written c o).boot = ⟨stage, none⟩ := hb
  cases o with
  | ok _ =>
    refine ⟨[c.written u.driver.base (.ok ())], ?_, congrArg _ hp⟩
    show Bootstrap.Sends id stage (.ok ()) _ (u.driver.written c (.ok ())).boot
    rw [hw]
    exact .sent hc _
  | error e =>
    have hfail : (u.driver.written c (.error e)).boot.fail = ⟨.failed, none⟩ := by
      rw [hw]
      simp [Bootstrap.fail, hr]
    refine ⟨[.report (.initialized (.error (.transfer e))), c.written u.driver.base (.error e)],
      ?_, congrArg (fun p ↦ _ :: _ :: p) hp⟩
    show Bootstrap.Sends id stage (.error (.transfer e)) _
      (u.driver.written c (.error e)).boot.fail
    rw [hfail]
    exact .refused hc _ e

theorem onBoot_reacts (hf : s.driver.channel.held = false) {id : CommandId} (hi : id.boots)
    (body : Bytes) :
    Steers (s.driver.boot.Reacts (.response id 0 body)) s (onBoot id body s) := by
  simp only [onBoot, bind_apply, view_apply, update_apply]
  cases hc : Reply.complete id body with
  | false =>
    rw [learn_of_incomplete hc]
    exact ⟨[], .malformed hi hc, rfl⟩
  | true =>
    obtain ⟨d, hd, hb, hch, hmac⟩ := learn_of_complete hc s
    simp only [hd, hb]
    by_cases ha : s.driver.boot.stage.awaited? = some id
    · obtain ⟨stage, hs⟩ := BootStage.step?_of_awaited? ha
      rcases (BootStage.step?_cases hs).2 with ⟨next, hn⟩ | ⟨h0, rfl, rfl⟩
      · simp only [Bootstrap.advance_of_step hs hn]
        obtain ⟨hnext, hready⟩ := BootStage.awaited?_boots hn
        obtain ⟨l, hl, hp⟩ := pumpBootstrap_sends
          (s := ⟨{ d with boot := ⟨stage, some next⟩ }, s.link⟩) (by rw [hch]; exact hf) rfl
          hnext hready
        exact ⟨l, .advanced hc hs hn hl, hp⟩
      · have hadv : s.driver.boot.advance .macAddr = (.done, ⟨.ready, none⟩) := by
          simp only [Bootstrap.advance, h0]
          rfl
        simp only [hadv]
        exact ⟨_, .completed (hmac rfl) h0, rfl⟩
    · simp only [Bootstrap.advance_of_not_awaited ha]
      refine ⟨[], ?_, rfl⟩
      exact .unawaited hi hc ha

theorem answer_steers (h : s.driver.station.Sound) (id : CommandId) (result : UInt8)
    (body : Bytes) :
    Steers (s.driver.boot.Reacts (.response id result body)) s (answer id result body s) := by
  -- What follows works on a session in which the command is no longer in flight.
  let u : Session σ :=
    { s with driver := { s.driver with channel := (s.driver.channel.respond id).2 } }
  have hf : u.driver.channel.held = false := h.free
  have hunrelated {r : Except DriverError Unit × Session σ} (hd : Detached u r.2)
      (hm : (Message.response id result body).Unrelated) :
      Steers (s.driver.boot.Reacts (.response id result body)) s r := by
    obtain ⟨l, ⟨hb, hl⟩, hp⟩ := hd.steers (r := r)
    refine ⟨l, ?_, hp⟩
    rw [hb]
    exact .unrelated hm hl
  by_cases hr : result = 0
  · subst hr
    simp only [answer, bind_apply, update_apply, ne_eq, not_true_eq_false, if_false]
    cases hi : id.boots with
    | true =>
      rw [commandDone_of_boots hi]
      exact onBoot_reacts (s := u) hf hi body
    | false =>
      by_cases hs : id = .funcShutdown
      · subst hs
        exact ⟨_, .shutDown, rfl⟩
      · exact hunrelated (commandDone_detached hi hs body (s := u) h.associates)
          ⟨hi, fun hn ↦ hs hn.1⟩
  · simp only [answer, bind_apply, update_apply, ne_eq, hr, not_false_eq_true, if_true]
    cases hi : id.boots with
    | true =>
      simp only [commandFailed_of_boots hi, bind_apply, view_apply]
      cases hready : s.driver.boot.isReady with
      | true => exact ⟨[], .late hi hr hready, rfl⟩
      | false => exact ⟨_, .rejected hi hr hready, rfl⟩
    | false =>
      have hd : Guarantees Detached (do
          commandFailed id (.rejected id.code result)
          throw (.rejected id.code result) : Act σ Unit) :=
        (commandFailed_detached hi _).bind fun _ ↦ .throw _
      have hu := hd u
      rw [bind_apply] at hu
      exact hunrelated hu ⟨hi, fun hn ↦ hr hn.2⟩

theorem receive_steers (h : s.driver.station.Sound) (f : Bytes) :
    Steers (s.driver.boot.Reacts (.ofFrame f)) s (receive f s) := by
  have hunrelated (hd : Guarantees Detached (receive f : Act σ Unit))
      (hm : (Message.ofFrame f).Unrelated) :
      Steers (s.driver.boot.Reacts (.ofFrame f)) s (receive f s) := by
    obtain ⟨l, ⟨hb, hl⟩, hp⟩ := (hd s).steers
    refine ⟨l, ?_, hp⟩
    rw [hb]
    exact .unrelated hm hl
  cases hm : Message.ofFrame f with
  | response id result body =>
    rw [receive_response hm]
    exact answer_steers h id result body
  | event id body =>
    rw [← hm]
    refine hunrelated ?_ (by rw [hm]; trivial)
    rw [receive_event hm]
    exact onEventOf_detached id body
  | other =>
    rw [← hm]
    exact hunrelated (fun s ↦ (apart_aside.receive hm s).right) (by rw [hm]; trivial)

end Session

namespace Step

variable {σ : Type}

/-- A start whose power-up succeeded: the chip runs its firmware from the beginning. -/
def Restarts (m : Step σ) : Prop := ∃ base, m.trigger = .powered (.ok base)

inductive BootEffect (m : Step σ) : Prop
  | bus (ht : m.trigger = .bus) (hb : m.after.driver.boot = m.before.driver.boot)
      (hl : ∀ x ∈ m.actions, x.IsAccess)
  | powerless {e : DriverError} (ht : m.trigger = .powered (.error e))
      (hl : m.actions = [.report (.initialized (.error e))])
      (hb : m.after.driver.boot = m.before.driver.boot.fail)
  | powered {base : UInt32} (ht : m.trigger = .powered (.ok base))
      (hs : Bootstrap.Sends .funcInit .awaitFuncInit m.outcome m.actions m.after.driver.boot)
  | call {c : Call} (ht : m.trigger = .call c)
      (hb : m.after.driver.boot = m.before.driver.boot) (hl : ∀ x ∈ m.actions, x.Detached)
  | frame {f : Bytes} (ht : m.trigger = .frame f)
      (hr : m.before.driver.boot.Reacts m.message m.outcome m.actions m.after.driver.boot)

theorem steers {m : Step σ} {r : Except DriverError Unit × Session σ}
    (hr : r = (m.outcome, m.after))
    {R : Except DriverError Unit → List Action → Bootstrap → Prop}
    (h : Session.Steers R m.before r) : R m.outcome m.actions m.after.driver.boot := by
  subst hr
  obtain ⟨l, hl, hp⟩ := h
  rwa [Step.actions_eq hp]

variable [Platform σ]

theorem Genuine.bootEffect {m : Step σ} (hg : m.Genuine) (h : m.before.driver.station.Sound) :
    m.BootEffect := by
  unfold Genuine at hg
  split at hg
  · rename_i ht
    obtain ⟨hk, l, hl, hl'⟩ := hg
    have hb : m.after.driver.boot = m.before.driver.boot := by
      have he := congrArg Driver.boot hk
      exact he
    exact .bus ht hb (by rwa [actions_eq hl])
  · rename_i base ht
    cases base with
    | error e =>
      have ha : m.after = (Session.afterPowerUp (.error e) m.before).2 := by rw [hg]
      refine .powerless ht (actions_eq ?_) ?_ <;>
      · rw [ha]
        rfl
    | ok base =>
      let u : Session σ :=
        { m.before with driver := { m.before.driver with base, boot := .start } }
      have hs := Session.pumpBootstrap_sends (s := u) h.free rfl rfl (by simp)
      exact .powered ht (steers hg hs)
  · rename_i c ht
    obtain ⟨hi, hv, hg⟩ := hg
    obtain ⟨hb, hl⟩ := steers hg (Session.perform_detached hi hv m.before).steers
    exact .call ht hb hl
  · rename_i f ht
    refine .frame ht ?_
    have hr := steers hg (Session.receive_steers h f)
    simpa only [message, ht] using hr

end Step

end SdioWlan
