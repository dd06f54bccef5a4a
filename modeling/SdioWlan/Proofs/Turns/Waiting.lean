import SdioWlan.PortAllocator
import SdioWlan.Proofs.Transcript

namespace SdioWlan

open Register (writableLow writableHigh)

/-- What a reading of the two registers comes to, and its accesses, the latest first. -/
inductive WritableRead : Except Errno UInt16 → List Access → Prop
  | word (lo hi : UInt8) : WritableRead (.ok (ofLe16 lo hi))
      [.readByte writableHigh (.ok hi), .readByte writableLow (.ok lo)]
  | low (e : Errno) : WritableRead (.error e) [.readByte writableLow (.error e)]
  | high (lo : UInt8) (e : Errno) : WritableRead (.error e)
      [.readByte writableHigh (.error e), .readByte writableLow (.ok lo)]

inductive WritableReads : List (Except Errno UInt16) → List Access → Prop
  | nil : WritableReads [] []
  | cons {o : Except Errno UInt16} {os : List (Except Errno UInt16)} {x xs : List Access}
      (ho : WritableRead o x) (hs : WritableReads os xs) : WritableReads (o :: os) (xs ++ x)

namespace PortAllocator

def Offered (a : PortAllocator) (w : UInt16) : Prop :=
  PortSet.contains w.toBitVec a.nextWrite.index = true

def told (a : PortAllocator) (ws : List UInt16) : PortSet :=
  ws.foldl (fun _ w ↦ w.toBitVec) a.writable

/-- How a wait with `n` tries ends after these readings, and the allocator that it leaves. -/
inductive Awaits (a : PortAllocator) (n : Nat) :
    List (Except Errno UInt16) → Except DriverError Nat → PortAllocator → Prop
  | granted {ws : List UInt16} {w : UInt16} (hn : ws.length < n) (hs : ∀ v ∈ ws, ¬ a.Offered v)
      (hw : a.Offered w) : Awaits a n (ws.map .ok ++ [.ok w]) (.ok a.nextWrite.index)
        { a with
          writable := PortSet.erase w.toBitVec a.nextWrite.index
          nextWrite := a.nextWrite.next a.writeWrap }
  | failed {ws : List UInt16} {e : Errno} (hn : ws.length < n) (hs : ∀ v ∈ ws, ¬ a.Offered v) :
      Awaits a n (ws.map .ok ++ [.error e]) (.error .sendData) { a with writable := a.told ws }
  | timedOut {ws : List UInt16} (hn : ws.length = n) (hs : ∀ v ∈ ws, ¬ a.Offered v) :
      Awaits a n (ws.map .ok) (.error (.timeout .writePort)) { a with writable := a.told ws }

variable {a b : PortAllocator} {n : Nat} {answers : List (Except Errno UInt16)}
  {r : Except DriverError Nat}

/-- Before the wait proper the chip was asked once, and the port was not there. -/
theorem Awaits.cons {w : UInt16} (hw : ¬ a.Offered w) (h : (a.setWritable w).Awaits n answers r b) :
    a.Awaits (n + 1) (.ok w :: answers) r b := by
  cases h with
  | @granted ws v hn hs hv =>
    have hs : ∀ v ∈ w :: ws, ¬ a.Offered v := List.forall_mem_cons.mpr ⟨hw, hs⟩
    exact @granted a (n + 1) (w :: ws) v (Nat.succ_lt_succ hn) hs hv
  | @failed ws e hn hs =>
    have hs : ∀ v ∈ w :: ws, ¬ a.Offered v := List.forall_mem_cons.mpr ⟨hw, hs⟩
    exact @failed a (n + 1) (w :: ws) e (Nat.succ_lt_succ hn) hs
  | @timedOut ws hn hs =>
    have hs : ∀ v ∈ w :: ws, ¬ a.Offered v := List.forall_mem_cons.mpr ⟨hw, hs⟩
    exact @timedOut a (n + 1) (w :: ws) (congrArg (· + 1) hn) hs

theorem Awaits.length_le (h : a.Awaits n answers r b) : answers.length ≤ n := by
  cases h with
  | granted hn | failed hn =>
    rw [List.length_append, List.length_map]
    exact hn
  | timedOut hn =>
    rw [List.length_map]
    exact Nat.le_of_eq hn

variable {σ : Type} [Platform σ]

theorem read16_writableRead : Link.Triple (fun h ↦ h = [])
    (Link.read16 writableLow writableHigh : Link.Transfer σ UInt16) WritableRead := by
  refine .bind (M := fun o h ↦ h = [.readByte writableLow o]) (.readByte ?_) (fun lo ↦ ?_) ?_
  · intro h hh o
    rw [hh]
  · refine .bind (M := fun o h ↦ h = [.readByte writableHigh o, .readByte writableLow (.ok lo)])
      (.readByte ?_) (fun hi ↦ .pure ?_) ?_
    · intro h hh o
      rw [hh]
    · intro h hh
      rw [hh]
      exact .word lo hi
    · intro e h hh
      rw [hh]
      exact .high lo e
  · intro e h hh
    rw [hh]
    exact .low e

/-- What one try does with what it reads. -/
theorem tryAcquire_apply (a : PortAllocator) (l : Link σ) :
    tryAcquire (a, l) =
      let s := Link.read16 writableLow writableHigh l
      match s.1 with
      | .error _ => (.error .sendData, (a, s.2))
      | .ok w =>
        if PortSet.contains w.toBitVec a.nextWrite.index then
          (.ok (some a.nextWrite.index), ({ a with
            writable := PortSet.erase w.toBitVec a.nextWrite.index
            nextWrite := a.nextWrite.next a.writeWrap }, s.2))
        else (.ok none, (a.setWritable w, s.2)) := by
  unfold tryAcquire
  dsimp only
  rcases Link.read16 writableLow writableHigh l with ⟨e | w, m⟩
  · rfl
  · simp only [nextWritable?, setWritable]
    by_cases hw : PortSet.contains w.toBitVec a.nextWrite.index
    · simp only [hw, if_true]
      rfl
    · simp only [hw, Bool.false_eq_true, if_false]

/-- All readings of a wait, and how it ends. -/
theorem poll_awaits (n : Nat) (a : PortAllocator) (l : Link σ) :
    let s := poll .writePort tryAcquire n (a, l)
    ∃ answers accesses, WritableReads answers accesses ∧
      s.2.2.past = accesses.map .access ++ l.past ∧ a.Awaits n answers s.1 s.2.1 := by
  induction n generalizing a l with
  | zero => exact ⟨[], [], .nil, rfl, @Awaits.timedOut a 0 [] rfl nofun⟩
  | succ n ih =>
    obtain ⟨x, hx, hr⟩ := read16_writableRead l [] l.past rfl rfl
    have ht := tryAcquire_apply a l
    rw [poll, work_bind_apply]
    rcases hl : Link.read16 writableLow writableHigh l with ⟨e | w, m⟩
    · rw [hl] at hx hr ht
      rw [ht]
      exact ⟨[.error e], x, .cons hr .nil, hx, @Awaits.failed a (n + 1) [] e (Nat.succ_pos n) nofun⟩
    rw [hl] at hx hr ht
    by_cases hw : a.Offered w
    · have ht : tryAcquire (a, l) = _ := ht.trans (if_pos hw)
      rw [ht]
      have hg := @Awaits.granted a (n + 1) [] w (Nat.succ_pos n) nofun hw
      exact ⟨[.ok w], x, .cons hr .nil, hx, hg⟩
    · have ht : tryAcquire (a, l) = _ := ht.trans (if_neg hw)
      rw [ht]
      obtain ⟨answers, accesses, hrs, hp, ha⟩ := ih (a.setWritable w) m
      refine ⟨.ok w :: answers, accesses ++ x, .cons hr hrs, ?_, ha.cons hw⟩
      rw [hp, List.map_append, List.append_assoc]
      exact congrArg _ hx

/-- The port after one of the data ports, as it comes out in numbers. -/
theorem index_next (a : PortAllocator) :
    let c := a.nextWrite.index
    (a.nextWrite.next a.writeWrap).index = if c + 1 < a.writeWrap then c + 1 else 1 := by
  intro c
  have hw := a.writeWrap_mem.2
  unfold DataPort.next
  by_cases h : c + 1 < a.writeWrap
  · rw [dif_pos ⟨h, Nat.lt_of_lt_of_le h hw⟩, if_pos h]
  · rw [dif_neg (fun hc ↦ h hc.1), if_neg h]
    rfl

/-- A wait for a port to write to, whatever the chip answers and whenever the bus fails. The chip is
asked at most as often as there are tries, and nothing else is done to it; each answer takes the
place of the one before. The port whose turn it is is granted as soon as an answer names it, and
then the turn goes to the next one, and this port alone is taken out of the answer. A reading that
fails ends the wait, and so does the end of the tries; either way the turn stays where it is. -/
theorem write_port_awaited (a : PortAllocator) (b : Budget) (l : Link σ) :
    let c := a.nextWrite.index
    let wrap := if 2 ≤ a.endPort.toNat ∧ a.endPort.toNat ≤ 16 then a.endPort.toNat else 16
    let s := acquire b (a, l)
    ∃ answers accesses, WritableReads answers accesses ∧
      s.2.2.past = accesses.map .access ++ l.past ∧
      answers.length ≤ b.maxTries.toNat ∧
      a.Awaits b.maxTries.toNat answers s.1 s.2.1 ∧
      (∀ port, s.1 = .ok port → port = c ∧
        s.2.1.nextWrite.index = if c + 1 < wrap then c + 1 else 1) ∧
      (∀ e, s.1 = .error e → s.2.1.nextWrite = a.nextWrite) := by
  intro c wrap s
  obtain ⟨answers, accesses, hr, hp, ha⟩ := poll_awaits b.maxTries.toNat a l
  have ha : a.Awaits b.maxTries.toNat answers s.1 s.2.1 := ha
  refine ⟨answers, accesses, hr, hp, ha.length_le, ha, ?_, ?_⟩
  · intro port hs
    rw [hs] at ha
    generalize s.2.1 = b at ha
    cases ha with
    | granted => exact ⟨rfl, a.index_next⟩
  · intro e hs
    rw [hs] at ha
    generalize s.2.1 = b at ha
    cases ha with
    | failed | timedOut => rfl

/-- With no tries the chip is not even asked. -/
example (a : PortAllocator) (l : Link σ) (spin : UInt32) :
    acquire ⟨0, spin⟩ (a, l) = (.error (.timeout .writePort), (a, l)) :=
  rfl

end PortAllocator

end SdioWlan
