import SdioWlan.Proofs.CommandFrame
import SdioWlan.Proofs.Guarantee
import SdioWlan.Session.Receive

namespace SdioWlan

variable {σ α β : Type}

/-- The record grows by actions that satisfy `P`. -/
def Logs (P : Action → Prop) (l m : Link σ) : Prop := ∃ k, m.past = k ++ l.past ∧ ∀ a ∈ k, P a

variable {P : Action → Prop}

theorem Logs.cons {l : Link σ} {a : Action} (h : P a) (device : σ) :
    Logs P l ⟨device, a :: l.past⟩ := ⟨[a], rfl, by simpa using h⟩

instance : IsPreorder (Link σ) (Logs P) where
  refl l := ⟨[], rfl, by simp⟩
  trans l m n := by
    rintro ⟨j, hj, hj'⟩ ⟨k, hk, hk'⟩
    refine ⟨k ++ j, by rw [hk, hj, List.append_assoc], fun a ha ↦ ?_⟩
    exact (List.mem_append.mp ha).elim (hk' a) (hj' a)

instance {γ : Type} : IsPreorder (γ × Link σ) (fun a b ↦ Logs P a.2 b.2) where
  refl a := refl_of (Logs P) a.2
  trans _ _ _ := trans_of (Logs P)

namespace Link

theorem perform_logs {op : σ → Except Errno α × σ} {entry : Except Errno α → Access}
    (h : ∀ o, P (.access (entry o))) : Guarantees (Logs P) (perform op entry) :=
  fun _ ↦ .cons (h _) _

variable [Platform σ]

theorem readByte_logs {addr : UInt32} (h : ∀ o, P (.access (.readByte addr o))) :
    Guarantees (Logs P) (readByte addr : Transfer σ UInt8) := perform_logs h

theorem writeByte_logs {addr : UInt32} {value : UInt8}
    (h : ∀ o, P (.access (.writeByte addr value o))) :
    Guarantees (Logs P) (writeByte addr value : Transfer σ Unit) := perform_logs h

theorem readBlock_logs {addr : UInt32} {mode : Addressing} {size : Nat}
    (h : ∀ o, P (.access (.readBlock addr mode size o))) :
    Guarantees (Logs P) (readBlock addr mode size : Transfer σ Bytes) := perform_logs h

theorem writeBlock_logs {addr : UInt32} {mode : Addressing} {block : Bytes}
    (h : ∀ o, P (.access (.writeBlock addr mode block o))) :
    Guarantees (Logs P) (writeBlock addr mode block : Transfer σ Unit) := perform_logs h

theorem reset_logs (h : ∀ o, P (.access (.reset o))) :
    Guarantees (Logs P) (reset : Transfer σ Unit) := by
  intro l
  unfold reset
  split
  · exact refl_of (Logs P) l
  · exact .cons (h _) _

theorem read16_logs {lo hi : UInt32} (h : ∀ addr o, P (.access (.readByte addr o))) :
    Guarantees (Logs P) (read16 lo hi : Transfer σ UInt16) :=
  (readByte_logs (h lo)).bind fun _ ↦ (readByte_logs (h hi)).bind fun _ ↦ .pure _

end Link

theorem PortAllocator.acquire_logs [Platform σ] (h : ∀ addr o, P (.access (.readByte addr o)))
    (b : Budget) :
    Guarantees (fun s t : PortAllocator × Link σ ↦ Logs P s.2 t.2) (acquire b) := by
  refine .poll (fun s ↦ ?_) _
  have hr : Logs P s.2 (Link.read16 Register.writableLow Register.writableHigh s.2).2 :=
    Link.read16_logs h s.2
  unfold tryAcquire
  split
  · rename_i hl
    rwa [hl] at hr
  · rename_i w l hl
    rw [hl] at hr
    dsimp only
    split <;> exact hr

/-- Everything that `f` shows of the driver stays, and all that is done satisfies `P`. -/
structure Footprint (f : Driver → β) (P : Action → Prop) (s t : Session σ) : Prop where
  kept : f t.driver = f s.driver
  logged : Logs P s.link t.link

namespace Footprint

variable {f : Driver → β}

instance : IsPreorder (Session σ) (Footprint f P) where
  refl s := ⟨rfl, refl_of (Logs P) s.link⟩
  trans _ _ _ h h' := ⟨h'.kept.trans h.kept, trans_of (Logs P) h.logged h'.logged⟩

theorem view (g : Driver → α) : Guarantees (Footprint f P) (Session.view g : Session.Act σ α) :=
  fun s ↦ refl_of (Footprint f P) s

theorem update {g : Driver → Driver} (h : ∀ d, f (g d) = f d) :
    Guarantees (Footprint f P) (Session.update g : Session.Act σ Unit) :=
  fun s ↦ ⟨h s.driver, refl_of (Logs P) s.link⟩

theorem record {a : Action} (h : P a) :
    Guarantees (Footprint f P) (Session.record a : Session.Act σ Unit) :=
  fun _ ↦ ⟨rfl, .cons h _⟩

theorem onLink {w : Link.Work σ α} (h : Guarantees (Logs P) w) :
    Guarantees (Footprint f P) (Session.onLink w) := fun s ↦ ⟨rfl, h s.link⟩

theorem onPorts {w : ExceptT DriverError (StateM (PortAllocator × Link σ)) α}
    (hf : ∀ (d : Driver) ports, f { d with ports } = f d)
    (h : Guarantees (fun s t ↦ Logs P s.2 t.2) w) :
    Guarantees (Footprint f P) (Session.onPorts w) :=
  fun s ↦ ⟨hf s.driver _, h (s.driver.ports, s.link)⟩

theorem eraseLease [Platform σ] {mac : Mac} (h : ∀ answer, P (.stack (.eraseLease mac answer))) :
    Guarantees (Footprint f P) (Session.eraseLease mac : Session.Act σ (Option Lease)) :=
  fun _ ↦ ⟨rfl, .cons (h _) _⟩

end Footprint

end SdioWlan
