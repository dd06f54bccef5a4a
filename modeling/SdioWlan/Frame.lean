import SdioWlan.Bytes

namespace SdioWlan

structure Mac where
  a : UInt8
  b : UInt8
  c : UInt8
  d : UInt8
  e : UInt8
  f : UInt8
  deriving DecidableEq, Repr, Inhabited

namespace Mac

def size : Nat := 6

def zero : Mac := ⟨0, 0, 0, 0, 0, 0⟩

def toBytes (m : Mac) : Bytes := [m.a, m.b, m.c, m.d, m.e, m.f]

def ofBytes? : Bytes → Option Mac
  | a :: b :: c :: d :: e :: f :: _ => some ⟨a, b, c, d, e, f⟩
  | _ => none

def at? (body : Bytes) (off : Nat) : Option Mac := ofBytes? (body.drop off)

@[simp] theorem length_toBytes (m : Mac) : m.toBytes.length = 6 := rfl

@[simp] theorem ofBytes?_toBytes_append (m : Mac) (rest : Bytes) :
    ofBytes? (m.toBytes ++ rest) = some m := rfl

/-- An address can be read wherever there are enough bytes for one. -/
theorem map_toBytes_at? (body : Bytes) (off : Nat) :
    (at? body off).map toBytes = body.slice? off size := by
  have hl : (body.drop off).length = body.length - off := List.length_drop
  rw [at?, Bytes.slice?]
  by_cases h : off + size ≤ body.length
  · rw [if_pos h]
    have h6 : 6 ≤ (body.drop off).length := by
      rw [hl]
      exact Nat.le_sub_of_add_le (by rwa [Nat.add_comm])
    clear hl
    generalize body.drop off = rest at h6 ⊢
    rcases rest with _ | ⟨a, _ | ⟨b, _ | ⟨c, _ | ⟨d, _ | ⟨e, _ | ⟨f, _⟩⟩⟩⟩⟩⟩
    case cons.cons.cons.cons.cons.cons => rfl
    all_goals exact absurd h6 (by simp)
  · rw [if_neg h, Option.map_eq_none_iff]
    simp only [size] at h
    unfold ofBytes?
    split
    · rename_i hd
      simp only [hd, List.length_cons] at hl
      omega
    · rfl

end Mac

/-- Group addresses, the broadcast address among them, have the lowest bit of their first byte
set. -/
def isMulticast (addr : Bytes) : Bool :=
  match addr with
  | b :: _ => b &&& 1 != 0
  | [] => false

/-- The chip runs two interfaces: a station, and a small access point of its own. -/
inductive Role
  | sta
  | uap
  deriving DecidableEq, Repr

namespace Role

def code : Role → UInt8
  | sta => 0
  | uap => 1

def ofCode? (v : UInt8) : Option Role :=
  if v = 0 then some sta else if v = 1 then some uap else none

def name : Role → String
  | sta => "Sta"
  | uap => "Uap"

@[simp] theorem ofCode?_code (r : Role) : ofCode? r.code = some r := by cases r <;> rfl

end Role

inductive FrameKind
  | data
  | command
  | event
  | other (code : UInt8)
  deriving DecidableEq, Repr

namespace FrameKind

def ofCode (v : UInt8) : FrameKind :=
  if v = 0 then data else if v = 1 then command else if v = 3 then event else other v

def code : FrameKind → UInt8
  | data => 0
  | command => 1
  | event => 3
  | other v => v

@[simp] theorem code_ofCode (v : UInt8) : (ofCode v).code = v := by
  unfold ofCode
  split <;> (try split) <;> (try split) <;> simp_all [code]

end FrameKind

def frameHeaderSize : Nat := 4

def maxFrame : Nat := 2048

def txDescriptorSize : Nat := 20

end SdioWlan
