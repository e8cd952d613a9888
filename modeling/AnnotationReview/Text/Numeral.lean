/-!
# Unsigned numerals

A numeral is an optional plus sign and at least one ASCII digit.  It is read from the left, and
the first fault met decides the error: a character that is no digit, or a value above the limit.
-/

namespace AnnotationReview.Text

/-- Why a text is no numeral in range. -/
inductive NumeralError where
  | empty
  | invalidDigit
  | overflow
deriving DecidableEq, Repr

namespace NumeralError

/-- The name of the error in messages. -/
def name : NumeralError → String
  | .empty => "Empty"
  | .invalidDigit => "InvalidDigit"
  | .overflow => "PosOverflow"

end NumeralError

/-- The greatest number of a word with some bits. -/
def greatestWord (bits : Nat) : Nat := Nat.pow 2 bits - 1

/-- The value of an ASCII digit. -/
def digitValue? (c : Char) : Option Nat :=
  if '0' ≤ c ∧ c ≤ '9' then some (c.toNat - 48) else none

/-- Reads on after a value, digit by digit. -/
def readDigits (limit value : Nat) : List Char → Except NumeralError Nat
  | [] => .ok value
  | c :: cs =>
    match digitValue? c with
    | none => .error .invalidDigit
    | some digit =>
      if 10 * value + digit ≤ limit then readDigits limit (10 * value + digit) cs
      else .error .overflow

/-- The number a text denotes, if it is at most `limit`. -/
def readNumeral (limit : Nat) (text : String) : Except NumeralError Nat :=
  match text.toList with
  | [] => .error .empty
  | ['+'] => .error .invalidDigit
  | '+' :: digits => readDigits limit 0 digits
  | digits => readDigits limit 0 digits

end AnnotationReview.Text
