import Mathlib.Data.List.Induction
import Mathlib.Data.Nat.ModEq
import SdioWlan.PortAllocator

namespace SdioWlan

/-- A turn of a data port, and whether a frame got through. -/
structure Turn where
  port : Nat
  used : Bool
  deriving DecidableEq

def dataPort? (base address : UInt32) : Option Nat :=
  if address = portAddress base controlPort then none else some (address - base).toNat

@[simp] theorem dataPort?_control (base : UInt32) :
    dataPort? base (portAddress base controlPort) = none := if_pos rfl

@[simp] theorem dataPort?_data (base : UInt32) (p : DataPort) :
    dataPort? base (portAddress base p.index) = some p.index := by
  have h₁ := p.one_le
  have h₂ := p.lt_maxPort
  simp only [maxPort] at h₂
  have hn : (UInt32.ofNat p.index).toNat = p.index := by
    rw [UInt32.toNat_ofNat']
    omega
  have hs : portAddress base p.index - base = UInt32.ofNat p.index := by
    rw [portAddress, UInt32.add_comm, UInt32.add_sub_cancel]
  have hne : portAddress base p.index ≠ portAddress base controlPort := by
    intro h
    rw [h, portAddress, UInt32.add_comm, UInt32.add_sub_cancel] at hs
    rw [← hs] at hn
    have h₀ : (UInt32.ofNat controlPort).toNat = 0 := rfl
    omega
  rw [dataPort?, if_neg hne, hs, hn]

/-- With `n` data ports, the ports have their turns from the first on, with none left out. -/
def InTurn (n : Nat) (ports : List Nat) : Prop :=
  ports = (List.range ports.length).map fun i ↦ i % n + 1

instance (n : Nat) (ports : List Nat) : Decidable (InTurn n ports) :=
  inferInstanceAs (Decidable (_ = _))

theorem InTurn.getElem {n k : Nat} {ports : List Nat} (h : InTurn n ports) (hk : k < ports.length) :
    ports[k] = k % n + 1 := by
  have hp : ports[k]? = some (k % n + 1) := by
    rw [show ports = _ from h, List.getElem?_map, List.getElem?_range hk]
    rfl
  rw [List.getElem?_eq_getElem hk] at hp
  exact Option.some.inj hp

theorem inTurn_concat {n p : Nat} {ports : List Nat} :
    InTurn n (ports ++ [p]) ↔ InTurn n ports ∧ p = ports.length % n + 1 := by
  unfold InTurn
  rw [List.length_append, List.length_singleton, List.range_succ, List.map_append,
    List.map_singleton]
  constructor
  · intro h
    obtain ⟨h₁, h₂⟩ := List.append_inj' h rfl
    exact ⟨h₁, List.singleton_inj.mp h₂⟩
  · rintro ⟨h₁, h₂⟩
    rw [← h₁, ← h₂]

namespace Turn

variable {n : Nat} {l : List Turn} {t : Turn}

def ports (l : List Turn) : List Nat := l.map (·.port)

def usedPorts (l : List Turn) : List Nat := ports (l.filter (·.used))

def missed (l : List Turn) : Nat := l.countP (!·.used)

theorem usedPorts_append (l m : List Turn) : usedPorts (l ++ m) = usedPorts l ++ usedPorts m := by
  rw [usedPorts, List.filter_append, ports, List.map_append]
  rfl

theorem length_usedPorts_add_missed (l : List Turn) :
    (usedPorts l).length + missed l = l.length := by
  have h := List.length_eq_countP_add_countP (l := l) (·.used)
  simp only [Bool.not_eq_true, Bool.decide_eq_false] at h
  rw [usedPorts, ports, List.length_map, ← List.countP_eq_length_filter, missed, h]

/-- So far the ports have had their turns in order, and this port is the next. -/
structure Upcoming (n : Nat) (l : List Turn) (port : Nat) : Prop where
  ports : InTurn n (ports l)
  next : port = l.length % n + 1

theorem Upcoming.concat {port : Nat} (h : Upcoming n l port) (ht : t.port = port) :
    Upcoming n (l ++ [t]) (port % n + 1) := by
  constructor
  · rw [Turn.ports, List.map_append]
    refine inTurn_concat.mpr ⟨h.ports, ?_⟩
    rw [List.length_map]
    exact ht.trans h.next
  · rw [h.next, Nat.mod_add_mod, List.length_append, List.length_singleton]

/-- Whenever a turn is used, the turns that were missed before it make up whole rounds. -/
def WholeRounds (n : Nat) (l : List Turn) : Prop :=
  ∀ pre t post, l = pre ++ t :: post → t.used = true → n ∣ missed pre

theorem wholeRounds_concat :
    WholeRounds n (l ++ [t]) ↔ WholeRounds n l ∧ (t.used = true → n ∣ missed l) := by
  constructor
  · intro h
    refine ⟨fun pre u post hl hu ↦ ?_, fun ht ↦ h l t [] rfl ht⟩
    exact h pre u (post ++ [t]) (by rw [hl, List.append_assoc, List.cons_append]) hu
  · rintro ⟨h, ht⟩ pre u post hl hu
    rcases post.eq_nil_or_concat with rfl | ⟨post, w, rfl⟩
    · obtain ⟨rfl, he⟩ := List.append_inj' hl rfl
      exact ht (List.singleton_inj.mp he ▸ hu)
    · rw [List.concat_eq_append, ← List.cons_append, ← List.append_assoc] at hl
      exact h pre u post (List.append_inj' hl rfl).1 hu

/-- The ports of the turns that were used are in turn themselves exactly if none was used out of
step. -/
theorem usedPorts_inTurn_iff (h : InTurn n (ports l)) :
    InTurn n (usedPorts l) ↔ WholeRounds n l := by
  induction l using List.reverseRecOn with
  | nil => exact ⟨fun _ pre t post hl ↦ by simp at hl, fun _ ↦ rfl⟩
  | append_singleton l t ih =>
    have hp : ports (l ++ [t]) = ports l ++ [t.port] := by rw [ports, List.map_append]; rfl
    rw [hp, inTurn_concat] at h
    obtain ⟨h, ht⟩ := h
    rw [wholeRounds_concat, ← ih h, usedPorts_append]
    by_cases hu : t.used = true
    · have hs : usedPorts [t] = [t.port] := by simp [usedPorts, ports, hu]
      have hl := length_usedPorts_add_missed l
      have hm : t.port = (usedPorts l).length % n + 1 ↔ n ∣ missed l := by
        rw [ht, ports, List.length_map, ← hl, Nat.add_right_cancel_iff]
        exact Nat.add_modEq_left_iff
      rw [hs, inTurn_concat, hm]
      simp only [hu, forall_const]
    · have hs : usedPorts [t] = [] := by simp [usedPorts, ports, hu]
      rw [hs, List.append_nil]
      simp only [hu, Bool.false_eq_true, false_imp_iff, and_true]

end Turn

end SdioWlan
