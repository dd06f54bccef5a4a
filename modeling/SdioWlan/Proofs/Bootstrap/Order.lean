import SdioWlan.Proofs.Bootstrap.Effect
import SdioWlan.Proofs.ScriptedChip
import SdioWlan.Proofs.Station.Sound

namespace SdioWlan

namespace Step

variable {σ : Type}

def bootCommands (m : Step σ) : List (CommandId × Except Errno Unit) :=
  if m.trigger = .bus then [] else (m.actions.filterMap Action.bootCommand?).reverse

def told (m : Step σ) : List (Except DriverError Mac) := m.actions.filterMap Action.initialized?

def Begins (m : Step σ) : Prop := m.Restarts ∧ m.outcome = .ok ()

end Step

/-- The commands of the bootstrap that the steps of a run write, each with what was dealt with
then. -/
def bootLog {σ : Type} (ms : List (Step σ)) : List (Message × CommandId × Except Errno Unit) :=
  ms.flatMap fun m ↦ m.bootCommands.map fun w ↦ (m.message, w)

/-- A response to a command, with the field that the command asks for unless the chip rejects
it. -/
def Message.Answers (msg : Message) (id : CommandId) : Prop :=
  ∃ result body, msg = .response id result body ∧ (result = 0 → Reply.complete id body)

/-- A response is due: its command has been written, and since then it has not come in and nothing
else has happened to the bootstrap. -/
def Due {σ : Type} (ms : List (Step σ)) (id : CommandId) : Prop :=
  ∃ a k b, ms = a ++ k :: b ∧ (id, .ok ()) ∈ k.bootCommands ∧
    ∀ x ∈ b, x.bootCommands = [] ∧ x.told = [] ∧ ¬ x.message.Answers id

/-- What has been written when a stage is reached. -/
inductive Climbed : BootStage → List (Message × CommandId × Except Errno Unit) → Prop
  | start : Climbed .awaitFuncInit [(.other, .funcInit, .ok ())]
  | step {s stage : BootStage} {id next : CommandId} {body : Bytes}
      {l : List (Message × CommandId × Except Errno Unit)} (h : Climbed s l)
      (hs : s.step? = some (id, stage)) (hn : stage.awaited? = some next) :
      Climbed stage (l ++ [(.response id 0 body, next, .ok ())])

theorem BootStage.step?_inj {s s' stage : BootStage} {id id' : CommandId}
    (h : s.step? = some (id, stage)) (h' : s'.step? = some (id', stage)) : s = s' ∧ id = id' := by
  cases s <;> cases h <;> cases s' <;> cases h' <;> exact ⟨rfl, rfl⟩

theorem Climbed.pred {s stage : BootStage} {id : CommandId}
    {l : List (Message × CommandId × Except Errno Unit)} (h : Climbed stage l)
    (hs : s.step? = some (id, stage)) :
    ∃ k body next, Climbed s k ∧ stage.awaited? = some next ∧
      l = k ++ [(.response id 0 body, next, .ok ())] := by
  cases h with
  | start => cases s <;> cases hs
  | step h hs' hn =>
    obtain ⟨rfl, rfl⟩ := BootStage.step?_inj hs hs'
    exact ⟨_, _, _, h, hn, rfl⟩

theorem Climbed.bottom {l : List (Message × CommandId × Except Errno Unit)}
    (h : Climbed .awaitFuncInit l) : l = [(.other, .funcInit, .ok ())] := by
  cases h with
  | start => rfl
  | @step s _ _ _ _ _ _ hs => cases s <;> cases hs

theorem Climbed.top {l : List (Message × CommandId × Except Errno Unit)}
    (h : Climbed .awaitMacAddr l) : ∃ i c g, l =
      [(.other, .funcInit, .ok ()), (.response .funcInit 0 i, .macControl, .ok ()),
        (.response .macControl 0 c, .getHwSpec, .ok ()),
        (.response .getHwSpec 0 g, .macAddr, .ok ())] := by
  obtain ⟨l₃, g, n₃, h₃, hg, rfl⟩ := h.pred (s := .awaitHwSpec) rfl
  obtain ⟨l₂, c, n₂, h₂, hc, rfl⟩ := h₃.pred (s := .awaitMacControl) rfl
  obtain ⟨l₁, i, n₁, h₁, hi, rfl⟩ := h₂.pred (s := .awaitFuncInit) rfl
  cases hg
  cases hc
  cases hi
  rw [h₁.bottom]
  exact ⟨i, c, g, rfl⟩

theorem Mac.slice?_of_at? {body : Bytes} {off : Nat} {mac : Mac} (h : Mac.at? body off = some mac) :
    body.slice? off Mac.size = some mac.toBytes := by
  rw [← map_toBytes_at?, h, Option.map_some]

theorem bootCommands_of_detached {l : List Action} (h : ∀ x ∈ l, x.Detached) :
    l.filterMap Action.bootCommand? = [] ∧ l.filterMap Action.initialized? = [] := by
  simp only [List.filterMap_eq_nil_iff]
  exact ⟨fun x hx ↦ (h x hx).unwritten, fun x hx ↦ (h x hx).untold⟩

theorem Bootstrap.Sends.written {next : CommandId} {stage : BootStage}
    {o : Except DriverError Unit} {l : List Action} {b : Bootstrap} (h : Sends next stage o l b)
    (hn : next.boots) :
    o = .ok () ∧ b.stage = stage ∧ l.filterMap Action.bootCommand? = [(next, .ok ())] ∧
        l.filterMap Action.initialized? = [] ∨
      ∃ e, o = .error e ∧ b.stage = .failed ∧ l.filterMap Action.initialized? = [.error e] := by
  have hk : next ∈ CommandId.known := by
    cases next with
    | unknown v => cases hn
    | _ => decide
  cases h with
  | @sent c hc base =>
    have hw := c.bootCommand?_written (by rw [hc]; exact hk) base (.ok ())
    rw [hc, hn, if_pos rfl] at hw
    exact .inl ⟨rfl, rfl, by simp [hw], rfl⟩
  | refused hc base e => exact .inr ⟨_, rfl, rfl, rfl⟩

theorem Bootstrap.awaited?_fail (b : Bootstrap) : b.fail.stage.awaited? = none := by
  unfold fail
  split <;> rfl

theorem Bootstrap.awaited?_of_ready {b : Bootstrap} (h : b.isReady) :
    b.stage.awaited? = none := by
  have hs : b.stage = .ready := by simpa [isReady] using h
  rw [hs]
  rfl

theorem Bootstrap.Reacts.awaiting {b c : Bootstrap} {msg : Message} {o : Except DriverError Unit}
    {l : List Action} (h : b.Reacts msg o l c) {id : CommandId}
    (ha : c.stage.awaited? = some id) :
    ((∀ x ∈ l, x.Detached) ∧ c = b ∧ ¬ msg.Answers id) ∨
      l.filterMap Action.initialized? = [] ∧ l.filterMap Action.bootCommand? = [(id, .ok ())] ∧
        ∃ id' body, msg = .response id' 0 body ∧ b.stage.step? = some (id', c.stage) := by
  cases h with
  | unrelated h hl =>
    refine .inl ⟨hl, rfl, ?_⟩
    rintro ⟨result, body, rfl, -⟩
    exact absurd (BootStage.awaited?_boots ha).1 (by simp [h.1])
  | shutDown | completed => cases ha
  | late _ _ h =>
    rw [awaited?_of_ready h] at ha
    cases ha
  | rejected =>
    rw [awaited?_fail] at ha
    cases ha
  | malformed _ h =>
    refine .inl ⟨by simp, rfl, ?_⟩
    rintro ⟨result, body, hm, hc⟩
    cases hm
    rw [hc rfl] at h
    cases h
  | unawaited _ _ hn =>
    refine .inl ⟨by simp, rfl, ?_⟩
    rintro ⟨result, body, hm, -⟩
    cases hm
    exact hn ha
  | advanced _ hs hn hc =>
    rcases hc.written (BootStage.awaited?_boots hn).1 with ⟨-, hb, hw, hi⟩ | ⟨e, -, hb, -⟩
    · rw [hb] at ha ⊢
      obtain rfl := Option.some.inj (hn.symm.trans ha)
      exact .inr ⟨hi, hw, _, _, rfl, hs⟩
    · rw [hb] at ha
      cases ha

namespace Step

variable {σ : Type} {m : Step σ}

theorem bootCommands_of_trigger (h : m.trigger ≠ .bus) :
    m.bootCommands = (m.actions.filterMap Action.bootCommand?).reverse := if_neg h

structure Idles (m : Step σ) : Prop where
  unwritten : m.bootCommands = []
  untold : m.told = []
  stays : ¬ m.Restarts

theorem idles_of_bus (ht : m.trigger = .bus) (h : ∀ x ∈ m.actions, x.IsAccess) : m.Idles := by
  refine ⟨if_pos ht, ?_, ?_⟩
  · rw [told, List.filterMap_eq_nil_iff]
    intro x hx
    obtain ⟨a, rfl⟩ := h x hx
    rfl
  · simp [Restarts, ht]

theorem idles_of_detached (ht : ∀ base, m.trigger ≠ .powered base)
    (h : ∀ x ∈ m.actions, x.Detached) : m.Idles := by
  obtain ⟨hw, hi⟩ := bootCommands_of_detached h
  refine ⟨?_, hi, ?_⟩
  · unfold bootCommands
    split
    · rfl
    · rw [hw]
      rfl
  · rintro ⟨base, hb⟩
    exact ht _ hb

theorem BootEffect.frame_of_message (h : m.BootEffect) (hm : m.message ≠ .other) :
    m.trigger ≠ .bus ∧
      m.before.driver.boot.Reacts m.message m.outcome m.actions m.after.driver.boot := by
  cases h with
  | bus ht | powerless ht | powered ht | call ht => exact absurd (by simp [message, ht]) hm
  | frame ht hr => exact ⟨by simp [ht], hr⟩

/-- How it comes that a stage waits for a response: it waited already and the response has not come,
or its command has just been written. -/
theorem BootEffect.awaiting (h : m.BootEffect) {id : CommandId}
    (ha : m.after.driver.boot.stage.awaited? = some id) :
    (m.Idles ∧ m.after.driver.boot = m.before.driver.boot ∧ ¬ m.message.Answers id) ∨
    m.told = [] ∧ m.bootCommands = [(id, .ok ())] ∧
      ((m.Begins ∧ m.message = .other ∧ m.after.driver.boot.stage = .awaitFuncInit) ∨
        ¬ m.Restarts ∧ ∃ id' body, m.message = .response id' 0 body ∧
          m.before.driver.boot.stage.step? = some (id', m.after.driver.boot.stage)) := by
  cases h with
  | bus ht hb hl =>
    refine .inl ⟨idles_of_bus ht hl, hb, ?_⟩
    simp [message, ht, Message.Answers]
  | call ht hb hl =>
    refine .inl ⟨idles_of_detached (by simp [ht]) hl, hb, ?_⟩
    simp [message, ht, Message.Answers]
  | powerless ht hl hb =>
    rw [hb, Bootstrap.fail] at ha
    split at ha <;> cases ha
  | powered ht hs =>
    rcases hs.written rfl with ⟨ho, hb, hw, hi⟩ | ⟨e, -, hb, -⟩
    · rw [hb] at ha
      cases ha
      have hc : m.bootCommands = [(.funcInit, .ok ())] := by
        rw [bootCommands_of_trigger (by simp [ht]), hw]
        rfl
      exact .inr ⟨hi, hc, .inl ⟨⟨⟨_, ht⟩, ho⟩, by simp [message, ht], hb⟩⟩
    · rw [hb] at ha
      cases ha
  | frame ht hr =>
    rcases hr.awaiting ha with ⟨hl, hb, hn⟩ | ⟨hi, hw, id', body, hm, hs⟩
    · exact .inl ⟨idles_of_detached (by simp [ht]) hl, hb, hn⟩
    · have hc : m.bootCommands = [(id, .ok ())] := by
        rw [bootCommands_of_trigger (by simp [ht]), hw]
        rfl
      exact .inr ⟨hi, hc, .inr ⟨by simp [Restarts, ht], id', body, hm, hs⟩⟩

/-- Success is told only when the last command is answered. -/
theorem BootEffect.completed (h : m.BootEffect) {mac : Mac} (ht : .ok mac ∈ m.told) :
    m.before.driver.boot.stage = .awaitMacAddr ∧ m.bootCommands = [] ∧
      m.actions = [.report (.initialized (.ok mac)), .stack (.interfaceUp mac)] ∧
      ∃ body, m.message = .response .macAddr 0 body ∧ Reply.address? body = some mac := by
  have hidle {n : Step σ} (hn : n.Idles) (hmac : .ok mac ∈ n.told) : False := by
    rw [hn.untold] at hmac
    cases hmac
  cases h with
  | bus hbus _ hl => exact (hidle (idles_of_bus hbus hl) ht).elim
  | call hcall _ hl => exact (hidle (idles_of_detached (by simp [hcall]) hl) ht).elim
  | powerless _ hl => simp [told, hl, Action.initialized?] at ht
  | powered _ hs =>
    unfold told at ht
    rcases hs.written rfl with ⟨-, -, -, hi⟩ | ⟨e, -, -, hi⟩ <;> simp [hi] at ht
  | frame htr hr =>
    have hcommands := bootCommands_of_trigger (m := m) (by simp [htr])
    unfold told at ht
    rw [hcommands]
    generalize m.message = msg, m.outcome = o, m.actions = l, m.after.driver.boot = c at hr ht ⊢
    cases hr with
    | unrelated _ hl => simp [(bootCommands_of_detached hl).2] at ht
    | late | malformed | unawaited => cases ht
    | shutDown | rejected => simp [Action.initialized?] at ht
    | advanced _ _ hn hc =>
      rcases hc.written (BootStage.awaited?_boots hn).1 with ⟨-, -, -, hi⟩ | ⟨e, -, -, hi⟩ <;>
        simp [hi] at ht
    | @completed mac' body h hs =>
      obtain rfl : mac = mac' := by simpa [Action.initialized?] using ht
      exact ⟨hs, rfl, rfl, body, rfl, h⟩

/-- A response that nobody waits for has no effect on a bootstrap under way. -/
theorem BootEffect.inert (h : m.BootEffect) {id : CommandId} {result : UInt8} {body : Bytes}
    (hm : m.message = .response id result body)
    (hn : ¬ (result = 0 ∧ m.before.driver.boot.stage.awaited? = some id)) :
    m.bootCommands = [] ∧ ∀ mac, .ok mac ∉ m.told := by
  refine ⟨?_, fun mac hmac ↦ ?_⟩
  · obtain ⟨ht, hr⟩ := h.frame_of_message (by simp [hm])
    rw [bootCommands_of_trigger ht]
    rw [hm] at hr
    generalize m.outcome = o, m.actions = l, m.after.driver.boot = c at hr ⊢
    cases hr with
    | unrelated _ hl => simp [(bootCommands_of_detached hl).1]
    | shutDown | late | rejected | malformed | unawaited | completed => rfl
    | advanced _ hs => exact absurd ⟨rfl, by rw [BootStage.awaited?, hs]; rfl⟩ hn
  · obtain ⟨hs, -, -, body', hm', -⟩ := h.completed hmac
    cases hm.symm.trans hm'
    exact hn ⟨rfl, by rw [hs]; rfl⟩

end Step

theorem bootLog_concat {σ : Type} (ms : List (Step σ)) (m : Step σ) :
    bootLog (ms ++ [m]) = bootLog ms ++ m.bootCommands.map fun w ↦ (m.message, w) := by
  simp [bootLog]

variable {σ : Type} [Platform σ] {config : Config} {firmware : FirmwareSource} {device : σ}
  {ms : List (Step σ)} {t : Session σ} {id : CommandId}

open Session ScriptedChip

/-- A stage is reached from the last start, command by command. -/
theorem Path.climbed (h : Path (fresh config firmware device) ms t)
    (ha : t.driver.boot.stage.awaited? = some id) :
    ∃ a k b, ms = a ++ k :: b ∧ k.Begins ∧ (∀ x ∈ b, ¬ x.Begins) ∧
      (∀ x ∈ k :: b, x.told = []) ∧ Climbed t.driver.boot.stage (bootLog (k :: b)) := by
  revert id
  refine h.rec_snoc (P := fun ms t ↦ ∀ {id}, t.driver.boot.stage.awaited? = some id →
    ∃ a k b, ms = a ++ k :: b ∧ k.Begins ∧ (∀ x ∈ b, ¬ x.Begins) ∧
      (∀ x ∈ k :: b, x.told = []) ∧ Climbed t.driver.boot.stage (bootLog (k :: b)))
    (fun ha ↦ by cases ha) fun ms m hp hg ih id ha ↦ ?_
  have he := hg.bootEffect (hp.sound (fresh_sound config firmware device))
  have hnext {k : Step σ} {b : List (Step σ)} (hb : ∀ x ∈ b, ¬ x.Begins)
      (ht : ∀ x ∈ k :: b, x.told = []) (hm : ¬ m.Restarts) (hmt : m.told = []) :
      (∀ x ∈ b ++ [m], ¬ x.Begins) ∧ ∀ x ∈ k :: (b ++ [m]), x.told = [] := by
    rw [← List.cons_append]
    simp only [List.forall_mem_append, List.forall_mem_singleton]
    exact ⟨⟨hb, fun hs ↦ hm hs.1⟩, ht, hmt⟩
  -- A step that leaves a stage waiting has found it so, or has just started, or is one rung up.
  rcases he.awaiting ha with ⟨hi, hb, -⟩ | ⟨htold, hw, ⟨hs, hm, hstage⟩ | ⟨hr, id', body, hm, hs⟩⟩
  · rw [hb] at ha ⊢
    obtain ⟨a, k, b, rfl, hk, hbegins, ht, hc⟩ := ih ha
    obtain ⟨hbegins, ht⟩ := hnext hbegins ht hi.stays hi.untold
    refine ⟨a, k, b ++ [m], by simp, hk, hbegins, ht, ?_⟩
    rwa [← List.cons_append, bootLog_concat, hi.unwritten, List.map_nil, List.append_nil]
  · refine ⟨ms, m, [], rfl, hs, by simp, by simpa using htold, ?_⟩
    rw [hstage] at ha ⊢
    cases ha
    simpa [bootLog, hw, hm] using Climbed.start
  · have hawaited : m.before.driver.boot.stage.awaited? = some id' := by
      rw [BootStage.awaited?, hs]
      rfl
    obtain ⟨a, k, b, rfl, hk, hbegins, ht, hc⟩ := ih hawaited
    obtain ⟨hbegins, ht⟩ := hnext hbegins ht hr htold
    refine ⟨a, k, b ++ [m], by simp, hk, hbegins, ht, ?_⟩
    rw [← List.cons_append, bootLog_concat, hw, hm]
    exact hc.step hs ha

/-- A stage waits for a response that is due. -/
theorem Path.due (h : Path (fresh config firmware device) ms t)
    (ha : t.driver.boot.stage.awaited? = some id) : Due ms id := by
  revert id
  refine h.rec_snoc (P := fun ms t ↦ ∀ {id}, t.driver.boot.stage.awaited? = some id → Due ms id)
    (fun ha ↦ by cases ha) fun ms m hp hg ih id ha ↦ ?_
  have he := hg.bootEffect (hp.sound (fresh_sound config firmware device))
  rcases he.awaiting ha with ⟨hi, hb, hn⟩ | ⟨-, hw, -⟩
  · rw [hb] at ha
    obtain ⟨a, k, b, rfl, hk, hrest⟩ := ih ha
    refine ⟨a, k, b ++ [m], by simp, hk, ?_⟩
    simp only [List.forall_mem_append, List.forall_mem_singleton]
    exact ⟨hrest, hi.unwritten, hi.untold, hn⟩
  · exact ⟨ms, m, [], rfl, by rw [hw]; exact List.mem_singleton_self _, by simp⟩

/-- Whenever the application hears that the chip is up, the commands of the bootstrap have been
written since the last start that succeeded, once each and in their order, each of the last three
while the response to the one before was dealt with; nothing else has been told since that start,
the address is the one in the response to the last command, and the stack has just been told of it.
A response that is not due writes no command of the bootstrap and is not taken for its end. -/
theorem bootstrap_in_order {calls : List Call} {pre post : List (Step σ)} {m : Step σ}
    (h : steps calls (fresh config firmware device) = pre ++ m :: post) :
    (∀ mac, .ok mac ∈ m.told →
      (∃ a k b i c g, pre = a ++ k :: b ∧ k.Begins ∧ (∀ x ∈ b, ¬ x.Begins) ∧
        (∀ x ∈ k :: b, x.told = []) ∧ bootLog (k :: b) =
          [(.other, .funcInit, .ok ()), (.response .funcInit 0 i, .macControl, .ok ()),
            (.response .macControl 0 c, .getHwSpec, .ok ()),
            (.response .getHwSpec 0 g, .macAddr, .ok ())]) ∧
      (∃ body, m.message = .response .macAddr 0 body ∧
        body.slice? 2 Mac.size = some mac.toBytes) ∧ m.bootCommands = [] ∧
      m.actions = [.report (.initialized (.ok mac)), .stack (.interfaceUp mac)]) ∧
    ∀ id result body, m.message = .response id result body → ¬ (result = 0 ∧ Due pre id) →
      m.bootCommands = [] ∧ ∀ mac, .ok mac ∉ m.told := by
  obtain ⟨hp, hg, hs⟩ := steps_around h
  have he := hg.bootEffect hs
  refine ⟨fun mac hmac ↦ ?_, fun id result body hm hn ↦ ?_⟩
  · obtain ⟨hstage, hw, ha, body, hm, haddress⟩ := he.completed hmac
    have hawaited : m.before.driver.boot.stage.awaited? = some .macAddr := by
      rw [hstage]
      rfl
    obtain ⟨a, k, b, hpre, hk, hb, ht, hc⟩ := hp.climbed hawaited
    rw [hstage] at hc
    obtain ⟨i, c, g, hlog⟩ := hc.top
    exact ⟨⟨a, k, b, i, c, g, hpre, hk, hb, ht, hlog⟩,
      ⟨body, hm, Mac.slice?_of_at? haddress⟩, hw, ha⟩
  · exact he.inert hm fun hdue ↦ hn ⟨hdue.1, hp.due hdue.2⟩

theorem bootstrap_in_order_completed :
    ∃ pre m post a k b i c g, stepsOf [] [] = pre ++ m :: post ∧
      .ok ⟨2, 136, 1, 170, 187, 204⟩ ∈ m.told ∧ pre = a ++ k :: b ∧ k.Begins ∧
      (∀ x ∈ k :: b, x.told = []) ∧ bootLog (k :: b) =
        [(.other, .funcInit, .ok ()), (.response .funcInit 0 i, .macControl, .ok ()),
          (.response .macControl 0 c, .getHwSpec, .ok ()),
          (.response .getHwSpec 0 g, .macAddr, .ok ())] := by
  obtain ⟨pre, m, post, h, -, hm⟩ := exists_step (stepsOf [] []) 16 Step.told
    (a := [.ok ⟨2, 136, 1, 170, 187, 204⟩]) (by decide +kernel)
  have hmac : .ok ⟨2, 136, 1, 170, 187, 204⟩ ∈ m.told := by
    rw [hm]
    exact List.mem_singleton_self _
  obtain ⟨⟨a, k, b, i, c, g, hpre, hk, -, ht, hlog⟩, -⟩ := (bootstrap_in_order h).1 _ hmac
  exact ⟨pre, m, post, a, k, b, i, c, g, h, hmac, hpre, hk, ht, hlog⟩

end SdioWlan
