import SdioWlan.Bytes

namespace SdioWlan.Text

def blankRanges : List (Nat × Nat) :=
  [(0x09, 0x0D), (0x20, 0x20), (0x85, 0x85), (0xA0, 0xA0), (0x1680, 0x1680), (0x2000, 0x200A),
    (0x2028, 0x2029), (0x202F, 0x202F), (0x205F, 0x205F), (0x3000, 0x3000)]

def isBlank (c : Char) : Bool := blankRanges.any fun r ↦ r.1 ≤ c.toNat && c.toNat ≤ r.2

def trim (cs : List Char) : List Char :=
  ((cs.dropWhile isBlank).reverse.dropWhile isBlank).reverse

def digit? (c : Char) : Option Nat := if c.isDigit then some (c.toNat - '0'.toNat) else none

def digitsFrom? (v : Nat) : List Char → Option Nat
  | [] => some v
  | c :: cs => (digit? c).bind fun d ↦ digitsFrom? (10 * v + d) cs

def unsigned? : List Char → Option Nat
  | [] => none
  | cs => digitsFrom? 0 cs

def natural? : List Char → Option Nat
  | '+' :: cs => unsigned? cs
  | cs => unsigned? cs

namespace Utf8

/-- What the first byte of a character says: its own bits, how many bytes follow, and between which
bounds the first of these has to lie. -/
structure Lead where
  bits : Nat
  more : Nat
  low : UInt8 := 0x80
  high : UInt8 := 0xBF

/-- The bounds rule out characters written longer than needed, halves of surrogate pairs, and
everything above the last character. -/
def Lead.ofByte? (b : UInt8) : Option Lead :=
  if b < 0x80 then some { bits := b.toNat, more := 0 }
  else if b < 0xC2 then none
  else if b < 0xE0 then some { bits := b.toNat - 0xC0, more := 1 }
  else if b = 0xE0 then some { bits := 0, more := 2, low := 0xA0 }
  else if b = 0xED then some { bits := 0x0D, more := 2, high := 0x9F }
  else if b < 0xF0 then some { bits := b.toNat - 0xE0, more := 2 }
  else if b = 0xF0 then some { bits := 0, more := 3, low := 0x90 }
  else if b < 0xF4 then some { bits := b.toNat - 0xF0, more := 3 }
  else if b = 0xF4 then some { bits := 4, more := 3, high := 0x8F }
  else none

def follow : Nat → UInt8 → UInt8 → Nat → Bytes → Option Nat × Bytes
  | 0, _, _, v, bs => (some v, bs)
  | _ + 1, _, _, _, [] => (none, [])
  | n + 1, low, high, v, b :: bs =>
    if low ≤ b ∧ b ≤ high then follow n 0x80 0xBF (64 * v + (b.toNat - 0x80)) bs
    else (none, b :: bs)

theorem length_follow_le (n : Nat) (low high : UInt8) (v : Nat) (bs : Bytes) :
    (follow n low high v bs).2.length ≤ bs.length := by
  induction n generalizing low high v bs with
  | zero => simp [follow]
  | succ n ih =>
    cases bs with
    | nil => simp [follow]
    | cons b bs =>
      simp only [follow]
      split
      · exact Nat.le_trans (ih ..) (Nat.le_succ _)
      · simp

def pieces : Bytes → List (Option Char)
  | [] => []
  | b :: bs =>
    match Lead.ofByte? b with
    | none => none :: pieces bs
    | some l =>
      let r := follow l.more l.low l.high l.bits bs
      r.1.map Char.ofNat :: pieces r.2
termination_by bs => bs.length
decreasing_by
  · simp
  · exact Nat.lt_succ_of_le (length_follow_le ..)

def decode? (bs : Bytes) : Option (List Char) := (pieces bs).mapM id

def replacement : Char := '\uFFFD'

def decodeLossy (bs : Bytes) : List Char := (pieces bs).map fun c ↦ c.getD replacement

end Utf8

end SdioWlan.Text
