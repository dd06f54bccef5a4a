import SdioWlan.Bytes
import SdioWlan.Error

namespace SdioWlan

structure Tlv where
  type : UInt16
  payload : Bytes
  deriving DecidableEq, Repr

namespace Tlv

inductive Format
  /-- Two bytes of type, two bytes of length. -/
  | chip
  /-- One byte of each. -/
  | beacon
  deriving DecidableEq, Repr

def Format.headerSize : Format → Nat
  | chip => 4
  | beacon => 2

def encode (format : Format) (t : Tlv) : Bytes :=
  match format with
  | .chip => le16 t.type ++ leBytes 2 t.payload.length ++ t.payload
  | .beacon => [t.type.toUInt8, UInt8.ofNat t.payload.length] ++ t.payload

/-- The first element and what follows it, if the string starts with a whole element. -/
def split? (format : Format) (buf : Bytes) : Option (Tlv × Bytes) :=
  match format, buf with
  | .chip, t₀ :: t₁ :: n₀ :: n₁ :: rest => cut (ofLe16 t₀ t₁) (ofLe16 n₀ n₁).toNat rest
  | .beacon, t :: n :: rest => cut t.toUInt16 n.toNat rest
  | _, _ => none
where
  cut (type : UInt16) (n : Nat) (rest : Bytes) : Option (Tlv × Bytes) :=
    if (rest.take n).length = n then some (⟨type, rest.take n⟩, rest.drop n) else none

theorem length_of_split? {format : Format} {buf rest : Bytes} {t : Tlv}
    (h : split? format buf = some (t, rest)) :
    buf.length = format.headerSize + t.payload.length + rest.length := by
  unfold split? at h
  split at h
  all_goals
    first
    | cases h
    | unfold split?.cut at h
      split at h
      · cases h
        rename_i hn
        simp only [List.length_take] at hn
        simp only [List.length_cons, List.length_take, List.length_drop, Format.headerSize]
        omega
      · cases h

structure Walk where
  elements : List Tlv
  tail : Bytes
  deriving DecidableEq, Repr

def walk (format : Format) (buf : Bytes) : Walk :=
  match _h : split? format buf with
  | none => ⟨[], buf⟩
  | some (t, rest) =>
    let w := walk format rest
    ⟨t :: w.elements, w.tail⟩
termination_by buf.length
decreasing_by
  have := length_of_split? _h
  cases format <;> simp only [Format.headerSize] at this <;> omega

def parse (format : Format) (buf : Bytes) : Except DriverError (List Tlv) :=
  let w := walk format buf
  if w.tail = [] then .ok w.elements else .error .malformedTlv

structure Block where
  bytes : Bytes := []
  deriving DecidableEq, Repr

namespace Block

def push (b : Block) (t : Tlv) : Except DriverError Block :=
  if t.payload.length < 0x10000 then .ok ⟨b.bytes ++ t.encode .chip⟩ else .error .tooLarge

def pushNumber (b : Block) (type value : UInt16) : Except DriverError Block :=
  b.push ⟨type, le16 value⟩

def pushParts (b : Block) (type : UInt16) (parts : List Bytes) : Except DriverError Block :=
  let n := parts.foldl (fun n p ↦ n + p.length) 0
  if n < 0x10000 then .ok ⟨b.bytes ++ parts.foldl (· ++ ·) (le16 type ++ leBytes 2 n)⟩
  else .error .tooLarge

def pushAll (b : Block) : List Tlv → Except DriverError Unit × Block
  | [] => (.ok (), b)
  | t :: ts =>
    match b.push t with
    | .error e => (.error e, b)
    | .ok b => b.pushAll ts

def ofList (ts : List Tlv) : Except DriverError Block := ts.foldlM push {}

end Block

end Tlv

end SdioWlan
