import SdioWlan.Proofs.PendingScans

namespace SdioWlan

open Connection (PendingScan)

def Bootstrap.Asleep (b : Bootstrap) : Prop := b.stage = .idle ∨ b.stage = .failed

theorem Bootstrap.Asleep.not_ready {b : Bootstrap} (h : b.Asleep) : b.isReady = false := by
  rcases h with h | h <;> rw [isReady, h] <;> rfl

theorem Bootstrap.Asleep.step?_eq_none {b : Bootstrap} (h : b.Asleep) : b.stage.step? = none := by
  rcases h with h | h <;> rw [h] <;> rfl

theorem Bootstrap.Asleep.fail {b : Bootstrap} (h : b.Asleep) : b.fail.Asleep := by
  right
  rcases h with h | h <;> simp [Bootstrap.fail, h]

/-- Only a start wakes a bootstrap. -/
theorem Step.BootEffect.asleep {σ : Type} {m : Step σ} (h : m.BootEffect)
    (hs : m.before.driver.boot.Asleep) (hr : ¬ m.Restarts) : m.after.driver.boot.Asleep := by
  cases h with
  | bus _ hb | call _ hb => rwa [hb]
  | powerless _ _ hb =>
    rw [hb]
    exact hs.fail
  | powered ht => exact absurd ⟨_, ht⟩ hr
  | frame _ hm =>
    generalize m.message = msg, m.outcome = o, m.actions = l, m.after.driver.boot = c at hm ⊢
    cases hm with
    | unrelated | late | malformed | unawaited => exact hs
    | shutDown => exact .inl rfl
    | rejected => exact hs.fail
    | advanced _ hstep =>
      rw [hs.step?_eq_none] at hstep
      cases hstep
    | completed _ hstage => rcases hs with hs | hs <;> cases hs.symm.trans hstage

/-- The chip has shut down, or never came up. Until it starts anew nobody can connect. -/
structure Session.Dormant {σ : Type} (s : Session σ) : Prop where
  asleep : s.driver.boot.Asleep
  idle : s.status ≠ .connecting
  forgot : s.driver.channel.staged = none

theorem Station.Fails.status_ne {a b : Station} {l : List Action} {why : ConnectFailure}
    (h : a.Fails why l b) (ha : a.connection.status ≠ .connecting) :
    b.connection.status ≠ .connecting := by
  rcases h.connectOutcomes with ⟨hs, -⟩ | ⟨hs, -⟩
  · exact absurd hs ha
  · rw [hs]
    intro h
    cases h

theorem Reaction.status_ne {msg : Message} {a b : Station} {l : List Action}
    (h : Reaction msg a l b) (ha : a.connection.status ≠ .connecting) :
    b.connection.status ≠ .connecting := by
  cases h with
  | idle | unheeded | flushed => exact ha
  | scanned => exact fun h ↦ ha ((Connection.scanAnswered_status _).symm.trans h)
  | scanFailed hv | joined hv | unjoined hv => exact absurd hv (Connection.not_connect_of_idle ha)
  | rejected hs => exact absurd hs ha
  | unflushed _ _ _ hf => exact hf.status_ne ha
  | shutDown | deauthenticated =>
    intro h
    cases h
  | released =>
    intro h
    cases h

theorem Reaction.staged_eq_none {msg : Message} {a b : Station} {l : List Action}
    (h : Reaction msg a l b) (ha : a.staged = none)
    (hv : msg.answersScan = true → a.connection.scanAnswered.1 ≠ .connect) : b.staged = none := by
  cases hb : b.staged with
  | none => rfl
  | some c =>
    rcases h.staged hb with ⟨body, n, rfl, hc, -⟩ | ⟨hs, -⟩
    · exact absurd hc (hv rfl)
    · rw [ha] at hs
      cases hs

namespace Step

variable {σ : Type} {m : Step σ}

theorem Takes.eq_nil_of_restarts {q rest : CommandQueue} (ht : m.Takes q rest)
    (hr : m.Restarts) : rest = [] := by
  cases ht with
  | restart => rfl
  | response hm =>
    obtain ⟨base, hb⟩ := hr
    simp [message, hb] at hm
  | other hn => exact absurd hr hn

theorem Effect.forgot (h : m.Effect) (hn : m.before.driver.channel.staged = none)
    (hv : m.message.answersScan = true → m.before.driver.connection.scanAnswered.1 ≠ .connect) :
    m.after.driver.channel.staged = none := by
  cases h with
  | bus _ hb | powered _ hb => exact (congrArg Station.staged hb).trans hn
  | call _ hd =>
    cases hc : m.after.driver.channel.staged with
    | none => rfl
    | some c =>
      have hs : m.before.driver.channel.staged = some c := (hd.staged hc).1
      rw [hn] at hs
      cases hs
  | frame _ hr => exact hr.staged_eq_none hn hv

variable [Platform σ]

theorem Genuine.dormant (hg : m.Genuine) (hs : m.before.driver.station.Sound)
    (h : m.before.Dormant) (hr : ¬ m.Restarts) : m.after.Dormant := by
  have hawake : m.after.driver.boot.Asleep := (hg.bootEffect hs).asleep h.asleep hr
  have hsame (hb : m.after.driver.station = m.before.driver.station) : m.after.Dormant := by
    refine ⟨hawake, ?_, (congrArg Station.staged hb).trans h.forgot⟩
    have hst := congrArg (·.connection.status) hb
    exact fun hc ↦ h.idle (hst.symm.trans hc)
  cases (hg.effect hs).1 with
  | bus _ hb => exact hsame hb
  | powered _ hb => exact hsame hb
  | call ht hd =>
    rw [h.asleep.not_ready] at hd
    have hstatus : m.before.driver.station.connection.status ≠ .connecting := h.idle
    have hstaged : m.before.driver.station.staged = none := h.forgot
    suffices hb : m.after.driver.station.connection.status ≠ .connecting ∧
        m.after.driver.station.staged = none from ⟨hawake, hb.1, hb.2⟩
    generalize m.before.driver.station = a, m.after.driver.station = b, m.outcome = o,
      m.actions = l at hd hstatus hstaged
    cases hd with
    | idle | refused => exact ⟨hstatus, hstaged⟩
    | scanned _ _ hsc => exact ⟨hsc.status ▸ hstatus, hsc.staged.trans hstaged⟩
    | connected hr | aborted hr => cases hr
  | frame ht hr =>
    exact ⟨hawake, hr.status_ne h.idle, hr.staged_eq_none h.forgot fun _ ↦
      Connection.not_connect_of_idle h.idle⟩

theorem Genuine.dormant_of_shutdown (hg : m.Genuine) {body : Bytes}
    (hm : m.message = .response .funcShutdown 0 body) : m.after.Dormant := by
  have ha : m.after = (Session.answer .funcShutdown 0 body m.before).2 := by
    rw [hg.answer_of_response hm]
  rw [ha]
  refine ⟨.inl rfl, ?_, rfl⟩
  intro hc
  cases hc

end Step

def Counted {σ : Type} (q : CommandQueue) (s : Session σ) : Prop :=
  s.Dormant ∨ q.scans ≤ s.driver.connection.scans.length

/-- Nothing that was written before the `n`-th step can touch the connection any more: nobody waits
for its response, or the chip has given it. -/
inductive Insulated {σ : Type} (n : Nat) (q : CommandQueue) (s : Session σ) : Prop
  | dormant (h : s.Dormant)
  | answered (h : ∀ e ∈ q, n ≤ e.1)
  | replaced {old new : List PendingScan} (hn : s.driver.channel.staged = none)
      (hs : s.driver.connection.scans = old ++ new) (ha : ∀ x ∈ old, x ≠ .attempt)
      (hq : q.scansBefore n ≤ old.length)

variable {σ : Type}

/-- An insulated response finds no association that is kept back and no attempt that waits. -/
theorem Insulated.unawaited {n : Nat} {passed rest : CommandQueue} {e : Nat × CommandId}
    {s : Session σ} (h : Insulated n (passed ++ e :: rest) s) (he : e.1 < n) :
    s.driver.channel.staged = none ∧
      (e.2 = .scan → s.driver.connection.scanAnswered.1 ≠ .connect) := by
  cases h with
  | dormant h => exact ⟨h.forgot, fun _ ↦ Connection.not_connect_of_idle h.idle⟩
  | answered h => exact absurd (h e (by simp)) (by omega)
  | @replaced old new hn hs ha hq =>
    refine ⟨hn, fun hscan ↦ ?_⟩
    cases old with
    | nil =>
      rw [CommandQueue.scansBefore_append, CommandQueue.scansBefore_cons he hscan] at hq
      simp at hq
    | cons x old => exact Connection.not_connect_of_cons hs (ha x (by simp))

variable {m : Step σ}

theorem Step.scansBefore_queued {n i : Nat} (hi : n ≤ i) (rest : CommandQueue) :
    (rest ++ m.queued i).scansBefore n = rest.scansBefore n := by
  have hqueued : (m.queued i).scansBefore n = 0 :=
    CommandQueue.scansBefore_eq_zero fun e he ↦ (Step.mem_queued he).symm ▸ hi
  rw [CommandQueue.scansBefore_append, hqueued, Nat.add_zero]

theorem Insulated.of_later {n i : Nat} {rest : CommandQueue} {s : Session σ} (hi : n ≤ i)
    (h : ∀ e ∈ rest, n ≤ e.1) : Insulated n (rest ++ m.queued i) s := by
  refine .answered fun e he ↦ ?_
  rcases List.mem_append.mp he with he | he
  · exact h e he
  · exact (Step.mem_queued he).symm ▸ hi

namespace Step

/-- A step that answers no scan leaves the marked ones in front, as they are or marked anew. -/
theorem Effect.insulated_of_unanswered {n i : Nat} {rest : CommandQueue}
    {old new : List PendingScan} (h : m.Effect) (hs : m.before.driver.station.Sound)
    (hd : ∀ body, m.message ≠ .response .funcShutdown 0 body) (hi : n ≤ i)
    (hn : m.before.driver.channel.staged = none)
    (hscans : m.before.driver.connection.scans = old ++ new) (ha : ∀ x ∈ old, x ≠ .attempt)
    (hq : rest.scansBefore n ≤ old.length) (hm : m.message.answersScan = false) :
    Insulated n (rest ++ m.queued i) m.after := by
  have hforgot := h.forgot hn fun hc ↦ by rw [hm] at hc; cases hc
  obtain ⟨old', new', hscans', -, -, hsame⟩ := h.grown hs hd i
  rcases hsame hm with rfl | rfl
  · have hnow : m.after.driver.connection.scans = old ++ (new ++ new') := by
      rw [hscans', hscans, List.append_assoc]
    refine .replaced hforgot hnow ha ?_
    rwa [scansBefore_queued hi]
  · have hnow : m.after.driver.connection.scans =
        old.map PendingScan.replace ++ (new.map PendingScan.replace ++ new') := by
      rw [hscans', hscans, List.map_append, List.append_assoc]
    refine .replaced hforgot hnow PendingScan.ne_attempt_of_replaced ?_
    rwa [scansBefore_queued hi, List.length_map]

/-- The answer to a scan uses up one that was marked. -/
theorem Effect.insulated_of_answered {n i : Nat} {rest : CommandQueue}
    {old new : List PendingScan} (h : m.Effect) (hs : m.before.driver.station.Sound)
    (hd : ∀ body, m.message ≠ .response .funcShutdown 0 body) (hi : n ≤ i)
    (hn : m.before.driver.channel.staged = none)
    (hscans : m.before.driver.connection.scans = old ++ new) (ha : ∀ x ∈ old, x ≠ .attempt)
    (hq : rest.scansBefore n + 1 ≤ old.length) (hm : m.message.answersScan = true) :
    Insulated n (rest ++ m.queued i) m.after := by
  cases old with
  | nil => simp at hq
  | cons x old =>
    have hforgot := h.forgot hn fun _ ↦ Connection.not_connect_of_cons hscans (ha x (by simp))
    obtain ⟨old', new', hscans', -, htail, -⟩ := h.grown hs hd i
    have hnow : m.after.driver.connection.scans = old ++ (new ++ new') := by
      rw [hscans', htail hm, hscans, List.cons_append, List.tail_cons, List.append_assoc]
    refine .replaced hforgot hnow (fun y hy ↦ ha y (List.mem_cons_of_mem x hy)) ?_
    rw [scansBefore_queued hi]
    exact Nat.le_of_succ_le_succ hq

end Step

variable [Platform σ]

theorem Counted.step {q rest : CommandQueue} (h : Counted q m.before) (hg : m.Genuine)
    (hs : m.before.driver.station.Sound) (ht : m.Takes q rest) (i : Nat) :
    Counted (rest ++ m.queued i) m.after := by
  by_cases hd : ∃ body, m.message = .response .funcShutdown 0 body
  · obtain ⟨body, hm⟩ := hd
    exact .inl (hg.dormant_of_shutdown hm)
  obtain ⟨old, new, hscans, hnew, htail, hsame⟩ :=
    (hg.effect hs).1.grown hs (fun body hm ↦ hd ⟨body, hm⟩) i
  have hlen : m.after.driver.connection.scans.length = old.length + (m.queued i).scans := by
    rw [hscans, List.length_append, hnew]
  by_cases hr : m.Restarts
  · rw [ht.eq_nil_of_restarts hr]
    right
    rw [hlen, List.nil_append]
    omega
  rcases h with h | h
  · exact .inl (hg.dormant hs h hr)
  right
  rw [hlen, CommandQueue.scans_append]
  refine Nat.add_le_add_right ?_ _
  have hkept (hm : m.message.answersScan = false) :
      old.length = m.before.driver.connection.scans.length := by
    rcases hsame hm with rfl | rfl
    · rfl
    · exact List.length_map _
  cases ht with
  | restart hr' => exact absurd hr' hr
  | @response passed rest e result body hm =>
    rw [CommandQueue.scans_append] at h
    rw [CommandQueue.scans_cons] at h
    by_cases he : e.2 = .scan
    · have ha : m.message.answersScan = true := by
        rw [hm, Message.answersScan_response, decide_eq_true he]
      rw [htail ha, List.length_tail]
      simp only [he, beq_self_eq_true, if_true] at h
      omega
    · have ha : m.message.answersScan = false := by
        rw [hm, Message.answersScan_response, decide_eq_false he]
      rw [hkept ha]
      omega
  | other _ hm =>
    rw [hkept (Message.answersScan_eq_false hm)]
    exact h

theorem Insulated.step {n i : Nat} {q rest : CommandQueue} (h : Insulated n q m.before)
    (hg : m.Genuine) (hs : m.before.driver.station.Sound) (hsort : q.Pairwise fun a b ↦ a.1 ≤ b.1)
    (ht : m.Takes q rest) (hi : n ≤ i) : Insulated n (rest ++ m.queued i) m.after := by
  by_cases hd : ∃ body, m.message = .response .funcShutdown 0 body
  · obtain ⟨body, hm⟩ := hd
    exact .dormant (hg.dormant_of_shutdown hm)
  have hd' (body : Bytes) : m.message ≠ .response .funcShutdown 0 body := fun hm ↦ hd ⟨body, hm⟩
  by_cases hr : m.Restarts
  · apply of_later hi
    rw [ht.eq_nil_of_restarts hr]
    simp
  have heff := (hg.effect hs).1
  cases h with
  | dormant h => exact .dormant (hg.dormant hs h hr)
  | answered h => exact .of_later hi fun e he ↦ h e (ht.sublist.subset he)
  | @replaced old new hn hscans ha hq =>
    have hother (hle : rest.scansBefore n ≤ old.length) (hm : m.message.answersScan = false) :
        Insulated n (rest ++ m.queued i) m.after :=
      heff.insulated_of_unanswered hs hd' hi hn hscans ha hle hm
    cases ht with
    | restart hr' => exact absurd hr' hr
    | @response passed rest e result body hm =>
      rw [CommandQueue.scansBefore_append] at hq
      have hlater : ∀ x ∈ rest, e.1 ≤ x.1 :=
        (List.pairwise_cons.mp (List.pairwise_append.mp hsort).2.1).1
      -- the queue is sorted, so what comes after a late command is late as well
      by_cases hl : n ≤ e.1
      · exact .of_later hi fun x hx ↦ Nat.le_trans hl (hlater x hx)
      by_cases hscan : e.2 = .scan
      · rw [CommandQueue.scansBefore_cons (Nat.lt_of_not_le hl) hscan] at hq
        refine heff.insulated_of_answered hs hd' hi hn hscans ha (by omega) ?_
        rw [hm, Message.answersScan_response, decide_eq_true hscan]
      · have hle : rest.scansBefore n ≤ CommandQueue.scansBefore n (e :: rest) :=
          (List.sublist_cons_self e rest).countP_le
        refine hother (by omega) ?_
        rw [hm, Message.answersScan_response, decide_eq_false hscan]
    | other _ hm => exact hother hq (Message.answersScan_eq_false hm)

def Step.Replaces (m : Step σ) : Prop :=
  (∃ ssid passphrase, m.trigger = .call (.connect ssid passphrase)) ∧ m.outcome = .ok () ∧
    m.before.status = .connecting

theorem Insulated.of_replaces {n : Nat} {q rest : CommandQueue} (hc : Counted q m.before)
    (hr : m.Replaces) (hg : m.Genuine) (hs : m.before.driver.station.Sound) (ht : m.Takes q rest) :
    Insulated n (rest ++ m.queued n) m.after := by
  obtain ⟨⟨ssid, passphrase, hcall⟩, hok, hstatus⟩ := hr
  have hcount : q.scans ≤ m.before.driver.connection.scans.length := by
    rcases hc with hd | hc
    · exact absurd hstatus hd.idle
    · exact hc
  have hle : (rest ++ m.queued n).scansBefore n ≤ m.before.driver.connection.scans.length := by
    rw [Step.scansBefore_queued (Nat.le_refl n)]
    have hrest : rest.scansBefore n ≤ q.scansBefore n := ht.sublist.countP_le
    have hall := q.scansBefore_le n
    omega
  cases (hg.effect hs).1 with
  | bus htr | powered htr | frame htr => cases htr.symm.trans hcall
  | call htr hd =>
    cases htr.symm.trans hcall
    rw [hok] at hd
    generalize hb : m.after.driver.station = b, m.actions = l at hd
    cases hd with
    | idle h | scanned h => exact absurd rfl (h ssid passphrase)
    | @connected _ _ a b l r _ hq hscan =>
      cases hscan with
      | sent =>
        have hstaged : m.after.driver.channel.staged = none := congrArg Station.staged hb
        have hscans : m.after.driver.connection.scans =
            m.before.driver.connection.scans.map PendingScan.replace ++ [.attempt] := by
          apply (congrArg (·.connection.scans) hb).trans
          rw [(Connection.status_of_request hq).2]
          rfl
        refine .replaced hstaged hscans PendingScan.ne_attempt_of_replaced ?_
        rwa [List.length_map]

theorem Counted.of_path {s t : Session σ} {ms : List (Step σ)} {q : CommandQueue}
    (h : Path s ms t) (hs : s.driver.station.Sound) (hq : InOrder ms q) : Counted q t := by
  induction hq generalizing t with
  | start => exact .inr (Nat.zero_le _)
  | @step ms p rest m _ ht ih =>
    obtain ⟨hp, hg, hn⟩ := h.around
    rw [← hn.eq_of_nil]
    exact (ih hp).step hg (hp.sound hs) ht ms.length

/-- From a request that replaces an attempt on, what was written before it stays insulated. -/
theorem Insulated.of_path {s t : Session σ} {a b : List (Step σ)} {q : CommandQueue}
    (h : Path s (a ++ m :: b) t) (hs : s.driver.station.Sound) (hr : m.Replaces)
    (hq : InOrder (a ++ m :: b) q) : Insulated a.length q t := by
  induction b using List.reverseRecOn generalizing t q with
  | nil =>
    obtain ⟨hp, hg, hn⟩ := h.around
    obtain ⟨p, rest, ha, ht, rfl⟩ := hq.last
    rw [← hn.eq_of_nil]
    exact .of_replaces (.of_path hp hs ha) hr hg (hp.sound hs) ht
  | append_singleton b k ih =>
    rw [← List.cons_append, ← List.append_assoc] at h hq
    obtain ⟨hp, hg, hn⟩ := h.around
    obtain ⟨p, rest, hb, ht, rfl⟩ := hq.last
    rw [← hn.eq_of_nil]
    have hlen : a.length ≤ (a ++ m :: b).length := by simp
    exact (ih hp hb).step hg (hp.sound hs) hb.sorted.2 ht hlen

end SdioWlan
