import AnnotationReview.Decimal.Double

/-!
# JSON values and their compact text

A whole number keeps its value; any other number is the double it denotes.  The members of an
object are a list of pairs, in the order in which they are written.
-/

namespace AnnotationReview.Json

/-- A number of a document. -/
inductive Number where
  | int (value : Int)
  | double (value : Double)
deriving DecidableEq, Repr

/-- A JSON value. -/
inductive Value where
  | null
  | bool (value : Bool)
  | number (value : Number)
  | string (value : String)
  | array (items : List Value)
  | object (members : List (String × Value))
deriving Repr

/-- A natural number as a value. -/
def Value.nat (n : Nat) : Value := .number (.int n)

/-- The value of an optional part, null where it is missing. -/
def Value.ofOption {α : Type} (encode : α → Value) : Option α → Value
  | some a => encode a
  | none => .null

/-! ## Compact text -/

/-- The digits of a natural number. -/
def writeNat (n : Nat) : List Char := Nat.toDigits 10 n

/-- A whole number. -/
def writeInt : Int → List Char
  | .ofNat n => writeNat n
  | .negSucc n => '-' :: writeNat (n + 1)

/-- A double in its shortest digits: positional from 10⁻⁵ up to 10¹⁶, with a fraction always
written, and scientific with a signed exponent elsewhere. -/
def writeDouble (d : Double) : List Char :=
  let (digits, k) := d.shortest
  let text := writeNat digits
  let n : Int := text.length
  let order := k + n - 1
  let unsigned : List Char :=
    if digits = 0 then "0.0".toList
    else if 0 ≤ order ∧ order < 16 then
      if 0 ≤ k then text ++ List.replicate k.toNat '0' ++ ".0".toList
      else text.take (n + k).toNat ++ '.' :: text.drop (n + k).toNat
    else if -5 ≤ order ∧ order < 0 then
      "0.".toList ++ List.replicate (-order - 1).toNat '0' ++ text
    else
      let mantissa := match text with
        | [] => []
        | [c] => [c]
        | c :: cs => c :: '.' :: cs
      let exponent := if 0 ≤ order then '+' :: writeInt order else writeInt order
      mantissa ++ 'e' :: exponent
  if d.negative then '-' :: unsigned else unsigned

/-- A number. -/
def Number.write : Number → List Char
  | .int n => writeInt n
  | .double d => writeDouble d

/-- A hexadecimal digit in lower case. -/
def hexDigit (n : Nat) : Char := Nat.digitChar n

/-- A character inside a string: quote, backslash and controls are escaped. -/
def escapeChar (c : Char) : List Char :=
  let n := c.toNat
  if c = '"' then ['\\', '"']
  else if c = '\\' then ['\\', '\\']
  else if n = 8 then ['\\', 'b']
  else if n = 9 then ['\\', 't']
  else if n = 10 then ['\\', 'n']
  else if n = 12 then ['\\', 'f']
  else if n = 13 then ['\\', 'r']
  else if n < 32 then ['\\', 'u', '0', '0', hexDigit (n / 16), hexDigit (n % 16)]
  else [c]

/-- A string with its quotes. -/
def writeString (text : String) : List Char :=
  '"' :: text.toList.flatMap escapeChar ++ ['"']

mutual

/-- The text of a value without any blanks. -/
def Value.write : Value → List Char
  | .null => "null".toList
  | .bool true => "true".toList
  | .bool false => "false".toList
  | .number n => n.write
  | .string s => writeString s
  | .array [] => ['[', ']']
  | .array (item :: items) => '[' :: item.write ++ Value.writeItems items
  | .object [] => ['\x7b', '\x7d']
  | .object ((key, value) :: members) =>
    '\x7b' :: writeString key ++ ':' :: value.write ++ Value.writeMembers members

/-- The items after the first, up to the closing bracket. -/
def Value.writeItems : List Value → List Char
  | [] => [']']
  | item :: items => ',' :: item.write ++ Value.writeItems items

/-- The members after the first, up to the closing brace. -/
def Value.writeMembers : List (String × Value) → List Char
  | [] => ['\x7d']
  | (key, value) :: members =>
    ',' :: writeString key ++ ':' :: value.write ++ Value.writeMembers members

end

/-- The compact text of a value. -/
def Value.toText (value : Value) : String :=
  String.ofList value.write

end AnnotationReview.Json
