import SdioWlan.Proofs.Bootstrap.Effect
import SdioWlan.Proofs.Station.Sound

namespace SdioWlan

/-- Commands that were written and not answered, the earliest first, each with the number of the
step that wrote it. -/
abbrev CommandQueue := List (Nat × CommandId)

def Action.sent? (a : Action) : Option CommandId :=
  match a.command? with
  | some (id, _, .ok ()) => some id
  | _ => none

namespace Step

variable {σ : Type}

/-- The commands that a step writes, whatever comes of it. Firmware goes over the bus in blocks that
say nothing. -/
def commands (m : Step σ) : List (CommandId × Bytes × Except Errno Unit) :=
  if m.trigger = .bus then [] else m.actions.filterMap Action.command?

def queued (m : Step σ) (i : Nat) : CommandQueue :=
  if m.trigger = .bus then [] else (m.actions.filterMap Action.sent?).reverse.map fun id ↦ (i, id)

inductive Takes (m : Step σ) : CommandQueue → CommandQueue → Prop
  | restart {q : CommandQueue} (h : m.Restarts) : Takes m q []
  | response {passed rest : CommandQueue} {e : Nat × CommandId} {result : UInt8} {body : Bytes}
      (h : m.message = .response e.2 result body) : Takes m (passed ++ e :: rest) rest
  | other {q : CommandQueue} (hr : ¬ m.Restarts)
      (h : ∀ id result body, m.message ≠ .response id result body) : Takes m q q

end Step

/-- The chip answers in order, and this is what it still has to answer. -/
inductive InOrder {σ : Type} : List (Step σ) → CommandQueue → Prop
  | start : InOrder [] []
  | step {ms : List (Step σ)} {q rest : CommandQueue} {m : Step σ} (h : InOrder ms q)
      (ht : m.Takes q rest) : InOrder (ms ++ [m]) (rest ++ m.queued ms.length)

namespace Step

variable {σ : Type} {m : Step σ}

theorem mem_queued {i : Nat} {e : Nat × CommandId} (h : e ∈ m.queued i) : e.1 = i := by
  unfold queued at h
  split at h
  · cases h
  · obtain ⟨id, -, rfl⟩ := List.mem_map.mp h
    rfl

theorem Takes.sublist {q rest : CommandQueue} (h : m.Takes q rest) : rest.Sublist q := by
  cases h with
  | restart => exact List.nil_sublist q
  | response => exact (List.sublist_cons_self _ _).trans (List.sublist_append_right _ _)
  | other => exact List.Sublist.refl q

end Step

namespace InOrder

variable {σ : Type} {ms : List (Step σ)} {m : Step σ} {q : CommandQueue}

theorem last (h : InOrder (ms ++ [m]) q) :
    ∃ p rest, InOrder ms p ∧ m.Takes p rest ∧ q = rest ++ m.queued ms.length := by
  generalize he : ms ++ [m] = ns at h
  cases h with
  | start => simp at he
  | step h ht =>
    obtain ⟨rfl, hm⟩ := List.append_inj' he rfl
    cases hm
    exact ⟨_, _, h, ht, rfl⟩

theorem sorted (h : InOrder ms q) :
    (∀ e ∈ q, e.1 < ms.length) ∧ q.Pairwise fun a b ↦ a.1 ≤ b.1 := by
  induction h with
  | start => exact ⟨by simp, .nil⟩
  | @step ms q rest m _ ht ih =>
    have hlt : ∀ e ∈ rest, e.1 < ms.length := fun e he ↦ ih.1 e (ht.sublist.subset he)
    refine ⟨fun e he ↦ ?_, List.pairwise_append.mpr ⟨ih.2.sublist ht.sublist, ?_, ?_⟩⟩
    · rw [List.length_append, List.length_singleton]
      rcases List.mem_append.mp he with he | he
      · exact Nat.lt_succ_of_lt (hlt e he)
      · rw [Step.mem_queued he]
        exact Nat.lt_succ_self _
    · apply List.pairwise_of_forall_mem_list
      intro a ha b hb
      exact Nat.le_of_eq ((Step.mem_queued ha).trans (Step.mem_queued hb).symm)
    · intro a ha b hb
      rw [Step.mem_queued hb]
      exact Nat.le_of_lt (hlt a ha)

end InOrder

namespace Step

variable {σ : Type}

def take? (m : Step σ) (q : CommandQueue) : Option CommandQueue :=
  match m.trigger with
  | .powered (.ok _) => some []
  | _ =>
    match m.message with
    | .response id _ _ =>
      match q with
      | e :: rest => if e.2 = id then some rest else none
      | [] => none
    | _ => some q

theorem takes_of_take? {m : Step σ} {q rest : CommandQueue} (h : m.take? q = some rest) :
    m.Takes q rest := by
  unfold take? at h
  split at h
  · rename_i base ht
    cases h
    exact .restart ⟨base, ht⟩
  · rename_i hn
    have hr : ¬ m.Restarts := by
      rintro ⟨base, hb⟩
      exact hn base hb
    split at h
    · rename_i id result body hm
      cases q with
      | nil => cases h
      | cons e q =>
        simp only [Option.ite_none_right_eq_some, Option.some.injEq] at h
        obtain ⟨he, rfl⟩ := h
        exact @Takes.response _ m [] q e result body (by rw [hm, he])
    · rename_i ho
      cases h
      exact .other hr ho

end Step

def queueFrom? {σ : Type} (i : Nat) (q : CommandQueue) : List (Step σ) → Option CommandQueue
  | [] => some q
  | m :: ms => (m.take? q).bind fun rest ↦ queueFrom? (i + 1) (rest ++ m.queued i) ms

theorem InOrder.of_queueFrom? {σ : Type} {pre ms : List (Step σ)} {p q : CommandQueue}
    (h : InOrder pre p) (hq : queueFrom? pre.length p ms = some q) : InOrder (pre ++ ms) q := by
  induction ms generalizing pre p with
  | nil =>
    cases hq
    rwa [List.append_nil]
  | cons m ms ih =>
    obtain ⟨rest, ht, hq⟩ := Option.bind_eq_some_iff.mp hq
    have hm : InOrder (pre ++ [m]) (rest ++ m.queued pre.length) :=
      h.step (Step.takes_of_take? ht)
    have hlen : (pre ++ [m]).length = pre.length + 1 := by simp
    rw [← hlen] at hq
    rw [List.append_cons]
    exact ih hm hq

def scansSent (l : List Action) : Nat := l.countP fun a ↦ a.sent? == some .scan

namespace CommandQueue

def scans (q : CommandQueue) : Nat := q.countP fun e ↦ e.2 == .scan

def scansBefore (n : Nat) (q : CommandQueue) : Nat := q.countP fun e ↦ e.1 < n && e.2 == .scan

theorem scans_append (p q : CommandQueue) :
    scans (p ++ q) = scans p + scans q := List.countP_append

theorem scansBefore_append (n : Nat) (p q : CommandQueue) :
    scansBefore n (p ++ q) = scansBefore n p + scansBefore n q := List.countP_append

theorem scans_cons (e : Nat × CommandId) (q : CommandQueue) :
    scans (e :: q) = scans q + if e.2 == .scan then 1 else 0 := List.countP_cons

theorem scansBefore_cons {n : Nat} {e : Nat × CommandId} {q : CommandQueue}
    (he : e.1 < n) (hs : e.2 = .scan) : scansBefore n (e :: q) = scansBefore n q + 1 := by
  rw [scansBefore, List.countP_cons, if_pos (by simp [he, hs])]
  rfl

theorem scansBefore_eq_zero {n : Nat} {q : CommandQueue} (h : ∀ e ∈ q, n ≤ e.1) :
    scansBefore n q = 0 := by
  rw [scansBefore, List.countP_eq_zero]
  intro e he
  have hn := h e he
  simp only [Bool.and_eq_true, decide_eq_true_eq, not_and]
  omega

theorem scansBefore_le (n : Nat) (q : CommandQueue) : scansBefore n q ≤ scans q := by
  apply List.countP_mono_left
  intro e _ h
  simp only [Bool.and_eq_true] at h
  exact h.2

end CommandQueue

theorem Step.scans_queued {σ : Type} {m : Step σ} (i : Nat) :
    (m.queued i).scans = if m.trigger = .bus then 0 else scansSent m.actions := by
  unfold queued
  split
  · rfl
  · rw [CommandQueue.scans, List.countP_map, List.countP_reverse, List.countP_filterMap, scansSent]
    apply List.countP_congr
    intro a _
    cases a.sent? <;> simp

end SdioWlan
