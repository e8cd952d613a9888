import AnnotationReview.Text.Utf8

/-!
# Percent-encoding

A byte that may not stand for itself in some part of a URL is written as a percent sign and two
hexadecimal digits.  Which bytes may stand for themselves depends on the part.
-/

namespace AnnotationReview.Url

/-- A hexadecimal digit in upper case. -/
def hexDigit (n : Nat) : Char :=
  if n < 10 then Char.ofNat (48 + n) else Char.ofNat (55 + n)

/-- The value of a hexadecimal digit. -/
def hexValue? (b : UInt8) : Option UInt8 :=
  if 48 ≤ b ∧ b ≤ 57 then some (b - 48)
  else if 65 ≤ b ∧ b ≤ 70 then some (b - 55)
  else if 97 ≤ b ∧ b ≤ 102 then some (b - 87)
  else none

/-- A byte written by its two digits. -/
def percentByte (b : UInt8) : List Char :=
  ['%', hexDigit (b.toNat / 16), hexDigit (b.toNat % 16)]

/-- The bytes of a text, each standing for itself if it is kept. -/
def percentEncode (keep : UInt8 → Bool) (cs : List Char) : List Char :=
  (cs.flatMap String.utf8EncodeChar).flatMap fun b =>
    if keep b then [Char.ofNat b.toNat] else percentByte b

/-- Reads percent signs with two digits behind them; any other one stands for itself. -/
def percentDecode : Bytes → Bytes
  | [] => []
  | b :: rest =>
    match b, rest with
    | 37, h :: l :: rest' =>
      match hexValue? h, hexValue? l with
      | some high, some low => (high * 16 + low) :: percentDecode rest'
      | _, _ => 37 :: percentDecode (h :: l :: rest')
    | b, rest => b :: percentDecode rest

/-! ## Which bytes stand for themselves -/

/-- A visible ASCII byte or the space. -/
def isPrintable (b : UInt8) : Bool :=
  32 ≤ b && b < 127

/-- The byte stands for itself unless it is a control, outside ASCII or one of the given
characters. -/
def allBut (excluded : String) (b : UInt8) : Bool :=
  isPrintable b && !excluded.toList.any fun c => c.toNat == b.toNat

/-- In a path without segments. -/
def keptInOpaquePath : UInt8 → Bool := isPrintable

/-- In a fragment. -/
def keptInFragment : UInt8 → Bool := allBut " \"<>\x60"

/-- In a segment of a path. -/
def keptInPath : UInt8 → Bool := allBut " \"<>\x60#?\x7b\x7d"

/-- In a user name or a password. -/
def keptInUserInfo : UInt8 → Bool := allBut " \"<>\x60#?\x7b\x7d/:;=@[\\]^|"

/-- In a query. -/
def keptInQuery (special : Bool) : UInt8 → Bool :=
  allBut (if special then " \"#<>'" else " \"#<>")

end AnnotationReview.Url
