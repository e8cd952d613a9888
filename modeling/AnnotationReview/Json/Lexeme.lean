import AnnotationReview.Json.Value
import AnnotationReview.Text.Utf8

/-!
# The lexemes of a document

Blanks, words, numbers and strings at the beginning of a string of bytes.  Every reader returns
what it read and what is left.  A string is first divided into pieces, which checks quotes,
controls and escapes; only `stringText` insists on surrogates being paired and the bytes being
UTF-8, so text that nobody looks at may break those two rules.
-/

namespace AnnotationReview.Json

/-- Why a document is refused. -/
inductive Fault where
  /-- The bytes are no document, or end too early. -/
  | malformed
  /-- A value has the wrong type, or a member is missing or repeated. -/
  | mistyped
deriving DecidableEq, Repr

/-- Reads something at the beginning of the bytes and returns it with the rest. -/
abbrev Reader (α : Type) := Bytes → Except Fault (α × Bytes)

/-- A blank between lexemes. -/
def isBlank (b : UInt8) : Bool :=
  b == 0x20 || b == 0x0A || b == 0x09 || b == 0x0D

/-- What is left behind the blanks. -/
def skipBlanks (s : Bytes) : Bytes :=
  s.dropWhile isBlank

/-- What is left behind a given beginning. -/
def dropWord? : Bytes → Bytes → Option Bytes
  | [], s => some s
  | w :: ws, b :: s => if w = b then dropWord? ws s else none
  | _ :: _, [] => none

/-! ## Numbers -/

/-- A decimal digit. -/
def isDigit (b : UInt8) : Bool :=
  0x30 ≤ b && b ≤ 0x39

/-- The number that digits denote. -/
def digitsValue (digits : Bytes) : Nat :=
  digits.foldl (fun n b => n * 10 + (b.toNat - 0x30)) 0

/-- The parts of a number as written. -/
structure NumberText where
  negative : Bool
  whole : Bytes
  /-- The digits behind the point; without a point there are none. -/
  fraction : Bytes
  /-- The sign and the digits of the exponent. -/
  exponent? : Option (Bool × Bytes)
deriving DecidableEq, Repr

/-- At least one digit. -/
def scanDigits (s : Bytes) : Except Fault (Bytes × Bytes) :=
  match s.takeWhile isDigit with
  | [] => .error .malformed
  | digits => .ok (digits, s.dropWhile isDigit)

/-- The fraction of a number, if a point follows. -/
def scanFraction : Bytes → Except Fault (Bytes × Bytes)
  | 0x2E :: s => scanDigits s
  | s => .ok ([], s)

/-- The exponent of a number, if its letter follows. -/
def scanExponent (s : Bytes) : Except Fault (Option (Bool × Bytes) × Bytes) :=
  match s with
  | e :: s' =>
    if e = 0x65 ∨ e = 0x45 then do
      let (negative, s') := match s' with
        | 0x2D :: s'' => (true, s'')
        | 0x2B :: s'' => (false, s'')
        | _ => (false, s')
      let (digits, rest) ← scanDigits s'
      return (some (negative, digits), rest)
    else .ok (none, s)
  | [] => .ok (none, s)

/-- A number: no leading zero, and digits on both sides of a point. -/
def scanNumber (s : Bytes) : Except Fault (NumberText × Bytes) := do
  let (negative, s) := match s with
    | 0x2D :: s' => (true, s')
    | _ => (false, s)
  let (whole, s) ← scanDigits s
  if whole.head? = some 0x30 ∧ whole.length ≠ 1 then .error .malformed
  else
    let (fraction, s) ← scanFraction s
    let (exponent?, s) ← scanExponent s
    return (⟨negative, whole, fraction, exponent?⟩, s)

/-- The least whole number that keeps its value: a word with a sign. -/
def minInt : Int := -(Nat.pow 2 63 : Nat)

/-- The greatest whole number that keeps its value: a word without a sign. -/
def maxInt : Int := Nat.pow 2 64 - 1

/-- A number written without point and exponent is whole if it is in range; the negative zero is
not, and neither is any number written with them. -/
def NumberText.whole? (n : NumberText) : Option Int :=
  if n.fraction = [] ∧ n.exponent? = none then
    let value := digitsValue n.whole
    let signed : Int := if n.negative then -(value : Int) else value
    if n.negative ∧ value = 0 then none
    else if minInt ≤ signed ∧ signed ≤ maxInt then some signed
    else none
  else none

/-- What a number denotes; `none` beyond the range of doubles. -/
def NumberText.value? (n : NumberText) : Option Number :=
  match n.whole? with
  | some value => some (.int value)
  | none =>
    let exponent : Int := match n.exponent? with
      | some (true, digits) => -(digitsValue digits : Int)
      | some (false, digits) => digitsValue digits
      | none => 0
    (Double.ofDecimal? n.negative (digitsValue (n.whole ++ n.fraction))
      (exponent - n.fraction.length)).map .double

/-- A number with its value. -/
def readNumber : Reader Number := fun s => do
  let (n, s) ← scanNumber s
  match n.value? with
  | some value => return (value, s)
  | none => .error .malformed

/-! ## Strings -/

/-- A piece of a string: a byte, or a UTF-16 unit given by an escape. -/
inductive Piece where
  | byte (value : UInt8)
  | unit (value : Nat)
deriving DecidableEq, Repr

/-- The value of a hexadecimal digit. -/
def hexValue? (b : UInt8) : Option Nat :=
  if 0x30 ≤ b ∧ b ≤ 0x39 then some (b.toNat - 0x30)
  else if 0x41 ≤ b ∧ b ≤ 0x46 then some (b.toNat - 0x37)
  else if 0x61 ≤ b ∧ b ≤ 0x66 then some (b.toNat - 0x57)
  else none

/-- The byte that a letter behind a backslash stands for. -/
def escapedByte? (b : UInt8) : Option UInt8 :=
  if b = 0x22 ∨ b = 0x5C ∨ b = 0x2F then some b
  else if b = 0x62 then some 0x08
  else if b = 0x66 then some 0x0C
  else if b = 0x6E then some 0x0A
  else if b = 0x72 then some 0x0D
  else if b = 0x74 then some 0x09
  else none

/-- Where the scanner of a string stands: between pieces, behind a backslash, or inside a
hexadecimal escape with the digits to come and the value so far. -/
inductive StringPlace where
  | between
  | escape
  | hex (missing value : Nat)
deriving DecidableEq, Repr

/-- The pieces of a string up to its closing quote. -/
def scanPieces : StringPlace → Bytes → Except Fault (List Piece × Bytes)
  | _, [] => .error .malformed
  | .between, b :: s =>
    if b = 0x22 then .ok ([], s)
    else if b = 0x5C then scanPieces .escape s
    else if b < 0x20 then .error .malformed
    else do
      let (pieces, rest) ← scanPieces .between s
      return (.byte b :: pieces, rest)
  | .escape, b :: s =>
    if b = 0x75 then scanPieces (.hex 3 0) s
    else match escapedByte? b with
      | none => .error .malformed
      | some value => do
        let (pieces, rest) ← scanPieces .between s
        return (.byte value :: pieces, rest)
  | .hex missing value, b :: s =>
    match hexValue? b, missing with
    | none, _ => .error .malformed
    | some digit, 0 => do
      let (pieces, rest) ← scanPieces .between s
      return (.unit (16 * value + digit) :: pieces, rest)
    | some digit, missing + 1 => scanPieces (.hex missing (16 * value + digit)) s

/-- The bytes of a string, if its surrogates are paired. -/
def joinPieces? : List Piece → Option Bytes
  | [] => some []
  | .byte b :: pieces => (joinPieces? pieces).map (b :: ·)
  | .unit u :: pieces =>
    if 0xDC00 ≤ u ∧ u ≤ 0xDFFF then none
    else if 0xD800 ≤ u ∧ u ≤ 0xDBFF then
      match pieces with
      | .unit v :: pieces =>
        if 0xDC00 ≤ v ∧ v ≤ 0xDFFF then
          let c := Char.ofNat (0x10000 + (u - 0xD800) * 0x400 + (v - 0xDC00))
          (joinPieces? pieces).map (String.utf8EncodeChar c ++ ·)
        else none
      | _ => none
    else (joinPieces? pieces).map (String.utf8EncodeChar (Char.ofNat u) ++ ·)

/-- The text of a string given by its pieces. -/
def stringText (pieces : List Piece) : Option String :=
  (joinPieces? pieces).bind Text.decode?

/-- The text of a string behind its opening quote. -/
def readStringBody : Reader String := fun s => do
  let (pieces, s) ← scanPieces .between s
  match stringText pieces with
  | some text => return (text, s)
  | none => .error .malformed

/-- Passes over a string behind its opening quote. -/
def skipStringBody : Reader Unit := fun s => do
  let (_, s) ← scanPieces .between s
  return ((), s)

end AnnotationReview.Json
