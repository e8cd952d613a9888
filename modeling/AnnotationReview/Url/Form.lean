import AnnotationReview.Text.Split
import AnnotationReview.Url.Percent

/-!
# Parameters as a query

A list of parameters is written as `name=value` pairs joined by ampersands.  Letters, digits and
the four signs `*-._` stand for themselves, a space becomes a plus sign, and every other byte is
percent-encoded, so neither separator can come from a name or a value.
-/

namespace AnnotationReview.Url

/-- A named value. -/
abbrev Parameter := String × String

/-- The byte stands for itself in a parameter. -/
def keptInForm (b : UInt8) : Bool :=
  (48 ≤ b && b ≤ 57) || (65 ≤ b && b ≤ 90) || (97 ≤ b && b ≤ 122) ||
    b == 42 || b == 45 || b == 46 || b == 95

/-- A byte of a name or a value. -/
def formByte (b : UInt8) : List Char :=
  if keptInForm b then [Char.ofNat b.toNat]
  else if b = 32 then ['+']
  else percentByte b

/-- A name or a value. -/
def formEncode (text : String) : List Char :=
  (Text.encode text).flatMap formByte

/-- A parameter as a pair. -/
def writeParameter (p : Parameter) : List Char :=
  formEncode p.1 ++ '=' :: formEncode p.2

/-- Parameters as a query. -/
def writeParameters : List Parameter → List Char
  | [] => []
  | [p] => writeParameter p
  | p :: q :: ps => writeParameter p ++ '&' :: writeParameters (q :: ps)

/-! ## Reading a query back -/

/-- The text of a written name or value. -/
def formDecode (cs : List Char) : Option String :=
  Text.decode? <| percentDecode <|
    (cs.map fun c => if c = '+' then ' ' else c).flatMap String.utf8EncodeChar

/-- The parameter a pair denotes; without an equals sign its value is empty. -/
def readParameter (pair : List Char) : Option Parameter := do
  let (name, value) := (Text.splitFirst? '=' pair).getD (pair, [])
  return (← formDecode name, ← formDecode value)

/-- The parameters of a query; `none` if a name or a value is no text. -/
def readParameters (query : List Char) : Option (List Parameter) :=
  if query.isEmpty then some [] else (Text.splitOn '&' query).mapM readParameter

end AnnotationReview.Url
