import SdioWlan.Proofs.CommandQueue
import SdioWlan.Proofs.Staging

namespace SdioWlan

open Connection (PendingScan)

theorem Connection.not_connect_of_idle {c : Connection} (h : c.status ≠ .connecting) :
    c.scanAnswered.1 ≠ .connect := fun hv ↦ h (status_of_connect hv)

theorem Connection.not_connect_of_cons {c : Connection} {x : PendingScan} {rest : List PendingScan}
    (h : c.scans = x :: rest) (hx : x ≠ .attempt) : c.scanAnswered.1 ≠ .connect := by
  rw [scanAnswered, h]
  cases x with
  | attempt => exact absurd rfl hx
  | replaced | caller =>
    intro h
    cases h

theorem PendingScan.ne_attempt_of_replaced {scans : List PendingScan} :
    ∀ x ∈ scans.map PendingScan.replace, x ≠ .attempt := by
  intro x hx
  obtain ⟨y, -, rfl⟩ := List.mem_map.mp hx
  cases y <;> simp [PendingScan.replace]

theorem scansSent_of_not_isScan {l : List Action} (h : ∀ x ∈ l, x.isScan = false) :
    scansSent l = 0 := by
  rw [scansSent, List.countP_eq_zero]
  intro x hx
  have hs := h x hx
  unfold Action.isScan at hs
  unfold Action.sent?
  split
  · rename_i id _ he
    rw [he] at hs
    simp only [beq_iff_eq, Option.some.injEq]
    rintro rfl
    cases hs
  · simp

theorem scansSent_of_calm {l : List Action} (h : ∀ x ∈ l, x.Calm) : scansSent l = 0 :=
  scansSent_of_not_isScan fun x hx ↦ Action.not_isScan_of_calm (h x hx)

theorem Command.sent?_written {c : Command} (h : c.id ∈ CommandId.known) (base : UInt32)
    (o : Except Errno Unit) :
    (c.written base o).sent? = match o with
      | .ok () => some c.id
      | .error _ => none := by
  simp only [Action.sent?, command?_written h]
  rcases o with _ | _ <;> rfl

/-- The scans under way are those that were, and as many more as were sent. -/
def Grown (a b : List PendingScan) (l : List Action) : Prop :=
  ∃ new, b = a ++ new ∧ new.length = scansSent l

theorem Grown.of_none {a : List PendingScan} {l : List Action} (h : scansSent l = 0) :
    Grown a a l := ⟨[], (List.append_nil a).symm, h.symm⟩

namespace Station

variable {a b : Station} {o : Except DriverError Unit} {l : List Action} {why : ConnectFailure}

theorem Scans.grown (h : a.Scans o l b) : Grown a.connection.scans b.connection.scans l := by
  cases h with
  | unwritten => exact .of_none rfl
  | refused hc => exact .of_none (by simp [scansSent, Command.sent?_written (scan_known hc)])
  | sent hc =>
    refine ⟨[_], rfl, ?_⟩
    simp [scansSent, Command.sent?_written (scan_known hc), hc]

theorem attemptFailed_scans (c : Connection) : c.attemptFailed.2.scans = c.scans := by
  unfold Connection.attemptFailed
  split <;> rfl

theorem Fails.grown (h : a.Fails why l b) : Grown a.connection.scans b.connection.scans l := by
  have hs : (a.forget.move a.connection.attemptFailed.2).connection.scans = a.connection.scans :=
    attemptFailed_scans _
  cases h with
  | gaveUp h => rw [hs]; exact .of_none rfl
  | retried h hsc => rw [← hs]; exact hsc.grown
  | stranded h hsc =>
    obtain ⟨new, hb, hn⟩ := hsc.grown
    exact ⟨new, hs ▸ hb, hn⟩

theorem Joins.scans {n : Bss} (h : a.Joins n o l b) :
    b.connection.scans = a.connection.scans := by
  cases h <;> rfl

end Station

def Message.answersScan : Message → Bool
  | .response .scan _ _ => true
  | _ => false

theorem Message.answersScan_response (id : CommandId) (result : UInt8) (body : Bytes) :
    (response id result body).answersScan = decide (id = .scan) := by
  cases id <;> rfl

theorem Message.answersScan_eq_false {msg : Message}
    (h : ∀ id result body, msg ≠ .response id result body) : msg.answersScan = false := by
  cases msg with
  | response id result body => exact absurd rfl (h id result body)
  | event | other => rfl

theorem Message.Idle.answersScan {msg : Message} (h : msg.Idle) : msg.answersScan = false := by
  unfold Message.answersScan
  split
  · cases h.1
  · rfl

@[simp] theorem Connection.scanAnswered_scans (c : Connection) :
    c.scanAnswered.2.scans = c.scans.tail := by
  unfold scanAnswered
  split <;> rename_i h <;> rw [h] <;> rfl

theorem Reaction.grown {msg : Message} {a b : Station} {l : List Action} (h : Reaction msg a l b)
    (ha : a.Sound) (hs : ∀ body, msg ≠ .response .funcShutdown 0 body) :
    Grown (if msg.answersScan then a.connection.scans.tail else a.connection.scans)
      b.connection.scans l := by
  have hkept {c : Command} (hc : a.staged = some c) (base : UInt32) (o : Except Errno Unit) :
      (c.written base o).sent? ≠ some .scan := by
    have hi : c.id = .associate := ha.associates c hc
    rw [Command.sent?_written (by rw [hi]; decide), hi]
    rcases o with _ | _ <;> simp
  have hanswered : a.answered.connection.scans = a.connection.scans.tail :=
    Connection.scanAnswered_scans _
  cases h with
  | idle hi hl =>
    rw [hi.answersScan]
    exact .of_none (scansSent_of_calm hl)
  | scanned _ hl =>
    rw [hanswered]
    exact .of_none (scansSent_of_calm (Action.calm_of_scanResult hl))
  | scanFailed _ hf =>
    have hg := hf.grown
    rwa [hanswered] at hg
  | joined _ _ hj =>
    rw [hj.scans, hanswered]
    exact .of_none (scansSent_of_not_isScan hj.not_isScan)
  | unjoined _ _ hj hf =>
    obtain ⟨new, hb, hn⟩ := hf.grown
    rw [hj.scans, hanswered] at hb
    refine ⟨new, hb, hn.trans ?_⟩
    have h0 := scansSent_of_not_isScan hj.not_isScan
    simp only [scansSent, List.countP_append] at h0 ⊢
    rw [h0, Nat.add_zero]
  | unheeded hi =>
    rcases hi with rfl | rfl <;> exact .of_none rfl
  | rejected _ he hf =>
    have hi := hf.grown
    rcases he with ⟨rfl | rfl, -⟩ | ⟨rfl, -⟩ <;> exact hi
  | flushed hc base =>
    refine .of_none ?_
    simp [scansSent, hkept hc]
  | unflushed hc base e hf =>
    obtain ⟨new, hb, hn⟩ := hf.grown
    refine ⟨new, hb, hn.trans ?_⟩
    simp [scansSent, hkept hc]
  | shutDown => exact absurd rfl (hs _)
  | deauthenticated => exact .of_none rfl
  | released => exact .of_none rfl

/-- A call adds the scan that it sends. A request has marked the others before. -/
theorem Deed.grown {ready : Bool} {c : Call} {o : Except DriverError Unit} {a b : Station}
    {l : List Action} (h : Deed ready c o a l b) :
    Grown a.connection.scans b.connection.scans l ∨
      Grown (a.connection.scans.map PendingScan.replace) b.connection.scans l := by
  cases h with
  | idle _ hl => exact .inl (.of_none (scansSent_of_calm hl))
  | scanned _ _ hs => exact .inl hs.grown
  | refused => exact .inl (.of_none rfl)
  | connected _ hq hs | aborted _ hq hs =>
    have hg := hs.grown
    simp only [Station.move, (Connection.status_of_request hq).2] at hg
    exact .inr hg

namespace Step

variable {σ : Type} {m : Step σ}

theorem Effect.grown (h : m.Effect) (hs : m.before.driver.station.Sound)
    (hn : ∀ body, m.message ≠ .response .funcShutdown 0 body) (i : Nat) :
    ∃ old new, m.after.driver.connection.scans = old ++ new ∧
      new.length = (m.queued i).scans ∧
      (m.message.answersScan = true → old = m.before.driver.connection.scans.tail) ∧
      (m.message.answersScan = false → old = m.before.driver.connection.scans ∨
        old = m.before.driver.connection.scans.map PendingScan.replace) := by
  have hq (ht : m.trigger ≠ .bus) : (m.queued i).scans = scansSent m.actions := by
    rw [scans_queued, if_neg ht]
  have hsame (hb : m.after.driver.station = m.before.driver.station) :
      m.after.driver.connection.scans = m.before.driver.connection.scans :=
    congrArg (·.connection.scans) hb
  cases h with
  | bus ht hb hl =>
    refine ⟨_, [], (hsame hb).trans (List.append_nil _).symm, ?_, ?_, fun _ ↦ .inl rfl⟩
    · rw [scans_queued, if_pos ht]
      rfl
    · simp [message, ht, Message.answersScan]
  | powered ht hb hl =>
    refine ⟨_, [], (hsame hb).trans (List.append_nil _).symm, ?_, ?_, fun _ ↦ .inl rfl⟩
    · rw [hq (by simp [ht]), scansSent_of_calm hl]
      rfl
    · simp [message, ht, Message.answersScan]
  | call ht hd =>
    rcases hd.grown with ⟨new, hb, hl⟩ | ⟨new, hb, hl⟩
    · refine ⟨_, new, hb, hl.trans (hq (by simp [ht])).symm, ?_, fun _ ↦ .inl rfl⟩
      simp [message, ht, Message.answersScan]
    · refine ⟨_, new, hb, hl.trans (hq (by simp [ht])).symm, ?_, fun _ ↦ .inr rfl⟩
      simp [message, ht, Message.answersScan]
  | frame ht hr =>
    obtain ⟨new, hb, hl⟩ := hr.grown hs hn
    refine ⟨_, new, hb, hl.trans (hq (by simp [ht])).symm, fun h ↦ if_pos h, fun h ↦ ?_⟩
    exact .inl (if_neg (by simp [h]))

end Step

end SdioWlan
