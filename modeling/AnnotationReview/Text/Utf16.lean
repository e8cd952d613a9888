import AnnotationReview.Text.Utf8

/-!
# UTF-16

Texts from pairs of bytes.  A surrogate without its other half is a fault, and so is a single byte
that is left at the end; a leading surrogate at the end and a byte behind it are one fault.
-/

namespace AnnotationReview.Text

/-- Which byte of a pair comes first. -/
inductive ByteOrder where
  | bigFirst
  | smallFirst
deriving DecidableEq, Repr

/-- The number that a pair of bytes denotes. -/
def ByteOrder.unit (order : ByteOrder) (first second : UInt8) : Nat :=
  match order with
  | .bigFirst => first.toNat * 256 + second.toNat
  | .smallFirst => second.toNat * 256 + first.toNat

/-- A number that begins a pair of surrogates. -/
def isLeading (unit : Nat) : Bool :=
  0xD800 ≤ unit && unit < 0xDC00

/-- A number that ends a pair of surrogates. -/
def isTrailing (unit : Nat) : Bool :=
  0xDC00 ≤ unit && unit < 0xE000

/-- The well-formed units of a string of bytes, in order, with `none` for each fault. -/
def decodeUnits (order : ByteOrder) : Bytes → List (Option Char)
  | [] => []
  | [_] => [none]
  | a :: b :: rest =>
    let unit := order.unit a b
    if isTrailing unit then none :: decodeUnits order rest
    else if !isLeading unit then some (Char.ofNat unit) :: decodeUnits order rest
    else
      match rest with
      | c :: d :: rest₁ =>
        let other := order.unit c d
        if isTrailing other then
          some (Char.ofNat (0x10000 + (unit - 0xD800) * 0x400 + (other - 0xDC00))) ::
            decodeUnits order rest₁
        else none :: decodeUnits order (c :: d :: rest₁)
      | _ => [none]

/-- The text of any bytes, with a replacement character for each fault. -/
def decodeLossyUtf16 (order : ByteOrder) (bytes : Bytes) : String :=
  String.ofList ((decodeUnits order bytes).map fun part => part.getD '\uFFFD')

end AnnotationReview.Text
