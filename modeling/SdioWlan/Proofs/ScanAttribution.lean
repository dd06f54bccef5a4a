import Mathlib.Data.List.DropRight
import Mathlib.Data.List.Induction
import SdioWlan.Proofs.Station.Sound

namespace SdioWlan.Connection

inductive Operation
  | request (ssid passphrase : Bytes)
  | abort
  | scanSent
  | scanAnswered
  | setPeer (bssid : Mac) (capability : UInt16) (security : Security)
  | attemptFailed
  | portReleased
  | deauthenticated
  | reset
  deriving DecidableEq

namespace Operation

/-- A request that is refused changes nothing. -/
def apply (c : Connection) : Operation → Connection
  | request ssid passphrase =>
    match c.request ssid passphrase with
    | .ok r => r
    | .error _ => c
  | abort => c.abort
  | scanSent => c.scanSent
  | scanAnswered => c.scanAnswered.2
  | setPeer bssid capability security => c.setPeer bssid capability security
  | attemptFailed => c.attemptFailed.2
  | portReleased => c.portReleased.2
  | deauthenticated => c.deauthenticated.2
  | reset => c.reset

def starts (c : Connection) : Operation → Bool
  | request ssid passphrase => (c.request ssid passphrase).isOk
  | _ => false

def answers (c : Connection) (o : Operation) : Bool := o = scanAnswered ∧ c.scans ≠ []

end Operation

def after (c : Connection) (ops : List Operation) : Connection := ops.foldl Operation.apply c

/-- How many of the operations satisfy `p`, each in the state in which it is done. -/
def tally (p : Connection → Operation → Bool) (c : Connection) : List Operation → Nat
  | [] => 0
  | o :: rest => (p c o).toNat + tally p (o.apply c) rest

def sinceReset (ops : List Operation) : List Operation := ops.rtakeWhile (· ≠ .reset)

/-- What the history calls a scan that was sent in the state `c` and followed by `later`. -/
def entry (c : Connection) (later : List Operation) : PendingScan :=
  if c.status ≠ .connecting then .caller
  else if c.scanSent.tally Operation.starts later = 0 then .attempt
  else .replaced

def entries (c : Connection) : List Operation → List PendingScan
  | [] => []
  | o :: rest =>
    if o = .scanSent then c.entry rest :: (o.apply c).entries rest else (o.apply c).entries rest

variable {c : Connection} {ops : List Operation} {o : Operation} {p : Connection → Operation → Bool}

@[simp] theorem after_concat : c.after (ops ++ [o]) = o.apply (c.after ops) := by
  simp only [after, List.foldl_append, List.foldl_cons, List.foldl_nil]

theorem tally_concat : c.tally p (ops ++ [o]) = c.tally p ops + (p (c.after ops) o).toNat := by
  induction ops generalizing c with
  | nil => simp only [List.nil_append, tally, after, List.foldl_nil, Nat.zero_add, Nat.add_zero]
  | cons x rest ih => simp only [List.cons_append, tally, ih, after, List.foldl_cons, Nat.add_assoc]

/-- A request that goes through turns the scans under way over, wherever they stand. -/
theorem entry_concat :
    c.entry (ops ++ [o]) =
      if o.starts (c.scanSent.after ops) then (c.entry ops).replace else c.entry ops := by
  unfold entry
  rw [tally_concat]
  cases o.starts (c.scanSent.after ops) <;> grind [PendingScan.replace]

theorem entries_concat :
    c.entries (ops ++ [o]) =
      (if o.starts (c.after ops) then (c.entries ops).map PendingScan.replace
        else c.entries ops) ++ if o = .scanSent then [(c.after ops).entry []] else [] := by
  induction ops generalizing c with
  | nil => simp [entries, after]
  | cons x rest ih =>
    have hx : (x.apply c).after rest = c.after (x :: rest) := rfl
    simp only [List.cons_append, entries, ih, hx]
    by_cases hs : x = .scanSent
    · subst hs
      have hc : c.scanSent.after rest = c.after (.scanSent :: rest) := rfl
      simp only [if_true, entry_concat, hc]
      split <;> simp
    · simp only [if_neg hs]

theorem length_entries : (c.entries ops).length = ops.count .scanSent := by
  induction ops generalizing c with
  | nil => rfl
  | cons o rest ih =>
    unfold entries
    split
    · next h => simp [h, ih]
    · next h => simp [h, ih]

/-- What one operation does to the queue. -/
theorem apply_scans (h : o ≠ .reset) :
    (o.apply c).scans =
      (if o.starts c then c.scans.map PendingScan.replace else c.scans).drop (o.answers c).toNat ++
        if o = .scanSent then [c.entry []] else [] := by
  cases o with
  | request ssid passphrase =>
    cases hr : c.request ssid passphrase with
    | error e => simp [Operation.apply, Operation.starts, Operation.answers, hr, Except.isOk,
        Except.toBool]
    | ok r => simp [Operation.apply, Operation.starts, Operation.answers, hr, Except.isOk,
        Except.toBool, (status_of_request hr).2]
  | scanSent =>
    simp [Operation.apply, Operation.starts, Operation.answers, scanSent, entry, tally]
  | scanAnswered =>
    cases hs : c.scans <;>
      simp [Operation.apply, Operation.starts, Operation.answers, scanAnswered, hs]
  | attemptFailed =>
    simp only [Operation.apply, Operation.starts, Operation.answers, attemptFailed]
    split <;> simp
  | reset => exact absurd rfl h
  | _ =>
    simp [Operation.apply, Operation.starts, Operation.answers, abort, setPeer, portReleased,
      deauthenticated]

/-- Without a reset the scans under way are those that were sent, less the first of them, which have
been answered. -/
theorem scans_after (hc : c.scans = []) (h : .reset ∉ ops) :
    (c.after ops).scans = (c.entries ops).drop (c.tally Operation.answers ops) ∧
      c.tally Operation.answers ops ≤ (c.entries ops).length := by
  induction ops using List.reverseRecOn with
  | nil => exact ⟨hc, Nat.le_refl 0⟩
  | append_singleton ops o ih =>
    obtain ⟨hs, hle⟩ := ih fun hm ↦ h (List.mem_append_left _ hm)
    have ho : o ≠ .reset := fun e ↦ h (by simp [e])
    set k := c.tally Operation.answers ops
    have hk : k + (o.answers (c.after ops)).toNat ≤ (c.entries ops).length := by
      cases ha : o.answers (c.after ops) with
      | false => exact hle
      | true =>
        have hne : (c.after ops).scans ≠ [] := by
          simp only [Operation.answers, decide_eq_true_eq] at ha
          exact ha.2
        rw [hs, Ne, List.drop_eq_nil_iff] at hne
        simp only [Bool.toNat_true]
        omega
    have hlen : (if o.starts (c.after ops) then (c.entries ops).map PendingScan.replace
        else c.entries ops).length = (c.entries ops).length := by
      split <;> simp
    constructor
    · rw [after_concat, apply_scans ho, entries_concat, tally_concat,
        List.drop_append_of_le_length (by rw [hlen]; exact hk), ← List.drop_drop, hs]
      split
      · rw [List.map_drop]
      · rfl
    · rw [entries_concat, tally_concat, List.length_append, hlen]
      omega

theorem exists_of_entries {k : Nat} {x : PendingScan} (h : (c.entries ops)[k]? = some x) :
    ∃ earlier later, ops = earlier ++ .scanSent :: later ∧ earlier.count .scanSent = k ∧
      x = (c.after earlier).entry later := by
  induction ops generalizing c k with
  | nil => simp [entries] at h
  | cons o rest ih =>
    unfold entries at h
    split at h
    · next ho =>
      subst ho
      cases k with
      | zero => exact ⟨[], rest, rfl, rfl, by simpa [after] using h.symm⟩
      | succ k =>
        obtain ⟨a, b, rfl, hk, rfl⟩ := ih (by simpa using h)
        exact ⟨.scanSent :: a, b, rfl, by simp [hk], rfl⟩
    · next ho =>
      obtain ⟨a, b, rfl, hk, rfl⟩ := ih h
      exact ⟨o :: a, b, rfl, by simp [ho, hk], rfl⟩

@[simp] theorem apply_retryLimit : (o.apply c).retryLimit = c.retryLimit := by
  cases o with
  | request ssid passphrase =>
    cases hr : c.request ssid passphrase with
    | error e => simp [Operation.apply, hr]
    | ok r => simp [Operation.apply, hr, (status_of_request hr).2]
  | scanAnswered => cases hs : c.scans <;> simp [Operation.apply, scanAnswered, hs]
  | attemptFailed =>
    simp only [Operation.apply, attemptFailed]
    split <;> rfl
  | _ => rfl

theorem after_retryLimit : (c.after ops).retryLimit = c.retryLimit := by
  induction ops using List.reverseRecOn with
  | nil => rfl
  | append_singleton ops o ih => rw [after_concat, apply_retryLimit, ih]

theorem after_sinceReset {limit : UInt8} :
    (new limit).after (sinceReset ops) = (new limit).after ops := by
  induction ops using List.reverseRecOn with
  | nil => rfl
  | append_singleton ops o ih =>
    by_cases ho : o = .reset
    · subst ho
      have hl : ((new limit).after ops).retryLimit = limit := after_retryLimit
      rw [sinceReset, List.rtakeWhile_concat_neg _ _ _ (by simp), after_concat]
      simp only [Operation.apply, reset, hl]
      rfl
    · rw [sinceReset, List.rtakeWhile_concat_pos _ _ _ (by simpa using ho), after_concat,
        after_concat]
      exact congrArg o.apply ih

theorem reset_not_mem_sinceReset : .reset ∉ sinceReset ops := fun h ↦ by
  simpa using List.mem_rtakeWhile_imp h

/-- Responses go to the scans that were sent since the last reset, in the order in which they were
sent. Each is judged by its own scan: by whether there was an attempt when it was sent, and whether
there still is the same one. -/
theorem scans_attributed (limit : UInt8) (ops : List Operation) :
    let c := (new limit).after ops
    let recent := sinceReset ops
    c.scans.length + (new limit).tally Operation.answers recent = recent.count .scanSent ∧
    (c.scans = [] → c.scanAnswered.1 = .plain) ∧
    (c.scans ≠ [] → ∃ earlier later, recent = earlier ++ .scanSent :: later ∧
      earlier.count .scanSent = (new limit).tally Operation.answers recent ∧
      (c.scanAnswered.1 = .plain ↔ ((new limit).after earlier).status ≠ .connecting) ∧
      (c.scanAnswered.1 = .connect ↔
        ((new limit).after earlier).status = .connecting ∧
        ((new limit).after (earlier ++ [.scanSent])).tally Operation.starts later = 0 ∧
        c.status = .connecting)) := by
  intro c recent
  obtain ⟨hs, hle⟩ : ((new limit).after recent).scans = _ ∧ _ :=
    scans_after rfl reset_not_mem_sinceReset
  replace hs : c.scans = _ := (congrArg scans after_sinceReset).symm.trans hs
  refine ⟨?_, fun h ↦ by simp only [scanAnswered, h], fun h ↦ ?_⟩
  · rw [hs, List.length_drop, length_entries]
    rw [length_entries] at hle
    omega
  · obtain ⟨s, rest, hsr⟩ := List.exists_cons_of_ne_nil h
    have hhead : ((new limit).entries recent)[(new limit).tally Operation.answers recent]? =
        some s := by
      rw [← List.head?_drop, ← hs, hsr]
      rfl
    obtain ⟨earlier, later, hsplit, hcount, rfl⟩ := exists_of_entries hhead
    refine ⟨earlier, later, hsplit, hcount, ?_⟩
    have hsent : (new limit).after (earlier ++ [.scanSent]) =
        ((new limit).after earlier).scanSent := after_concat
    rw [hsent]
    simp only [scanAnswered, hsr, entry]
    grind

/-- The scan of an attempt that was replaced comes to nothing, and the next one is acted on. -/
example :
    let ops : List Operation := [.request [65] [], .scanSent, .request [66] [], .scanSent]
    ((new 0).after ops).scanAnswered.1 = .stale ∧
      ((new 0).after (ops ++ [.scanAnswered])).scanAnswered.1 = .connect := by
  decide

end SdioWlan.Connection
