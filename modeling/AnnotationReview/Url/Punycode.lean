/-!
# Domain labels outside ASCII

A label with characters outside ASCII is written with the letters and digits of ASCII alone: its
ASCII characters first, then the places and values of the others as a sequence of differences,
each a numeral of variable length in base 36 whose thresholds adapt to the size of the earlier
ones.  `encode` writes a label so and `decode?` reads it back.
-/

namespace AnnotationReview.Url.Punycode

/-- A digit in base 36. -/
def digit (n : Nat) : Char :=
  if n < 26 then Char.ofNat (97 + n) else Char.ofNat (22 + n)

/-- The threshold of the digit at position `k`, a multiple of 36. -/
def threshold (k bias : Nat) : Nat :=
  max 1 (min 26 (k - bias))

/-- A difference as digits.  Each round divides what is left, so its size bounds the rounds. -/
def writeDifference (bias : Nat) : Nat → Nat → Nat → List Char
  | 0, _, _ => []
  | rounds + 1, k, q =>
    let t := threshold k bias
    if q < t then [digit q]
    else digit (t + (q - t) % (36 - t)) ::
      writeDifference bias rounds (k + 36) ((q - t) / (36 - t))

/-- Divides a difference until it is small and counts the divisions. -/
def damp : Nat → Nat → Nat → Nat × Nat
  | 0, delta, k => (delta, k)
  | rounds + 1, delta, k => if 455 < delta then damp rounds (delta / 35) (k + 36) else (delta, k)

/-- The bias for the next difference. -/
def adapt (delta count : Nat) (isFirst : Bool) : Nat :=
  let delta := if isFirst then delta / 700 else delta / 2
  let (delta, k) := damp delta (delta + delta / count) 0
  k + 36 * delta / (delta + 38)

/-- What the writer keeps: the difference so far, the bias, the number of characters written and
the digits. -/
structure Progress where
  delta : Nat
  bias : Nat
  written : Nat
  digits : List Char

/-- Passes over one character of the label while the characters of value `n` are written. -/
def pass (basic n : Nat) (p : Progress) (c : Char) : Progress :=
  if c.toNat < n then { p with delta := p.delta + 1 }
  else if c.toNat = n then
    { delta := 0
      bias := adapt p.delta (p.written + 1) (p.written == basic)
      written := p.written + 1
      digits := p.digits ++ writeDifference p.bias (p.delta + 1) 36 p.delta }
  else p

/-- The values outside ASCII in ascending order. -/
def values (label : List Char) : List Nat :=
  ((label.map Char.toNat).filter (128 ≤ ·)).mergeSort.eraseDups

/-- A label in ASCII, without the mark that tells it is encoded. -/
def encode (label : List Char) : List Char :=
  let basic := label.filter fun c => c.toNat < 128
  let start : Nat × Progress := (128, ⟨0, 72, basic.length, []⟩)
  let (_, p) := (values label).foldl (fun (n, p) m =>
    let p := { p with delta := p.delta + (m - n) * (p.written + 1) }
    let p := label.foldl (pass basic.length m) p
    (m + 1, { p with delta := p.delta + 1 })) start
  if basic.isEmpty then p.digits else basic ++ '-' :: p.digits

/-! ## Reading a label back -/

/-- The value of a digit in base 36. -/
def digitValue? (c : Char) : Option Nat :=
  if 'a' ≤ c ∧ c ≤ 'z' then some (c.toNat - 97)
  else if 'A' ≤ c ∧ c ≤ 'Z' then some (c.toNat - 65)
  else if '0' ≤ c ∧ c ≤ '9' then some (c.toNat - 22)
  else none

/-- What the parts of a difference have to stay below. -/
def wordSize : Nat := Nat.pow 2 32

/-- Reads a difference whose digits so far amount to `value`; the next one counts `weight`.
Neither may reach the size of a word. -/
def readDifference? (bias : Nat) : Nat → Nat → Nat → List Char → Option (Nat × List Char)
  | _, _, _, [] => none
  | k, weight, value, c :: cs => do
    let d ← digitValue? c
    let t := threshold k bias
    let value := value + d * weight
    if wordSize ≤ value then none
    else if d < t then some (value, cs)
    else if wordSize ≤ weight * (36 - t) then none
    else readDifference? bias (k + 36) (weight * (36 - t)) value cs

/-- Inserts the characters that the differences tell of.  `n` is the value of the last character
inserted and `place` the place behind it.  Every difference has a digit at least, so the number of
digits bounds the rounds. -/
def insertAll? : Nat → Nat → Nat → Nat → List Char → List Char → Option (List Char)
  | _, _, _, _, label, [] => some label
  | 0, _, _, _, _, _ => none
  | rounds + 1, bias, n, place, label, digits => do
    let (value, digits) ← readDifference? bias 36 1 place digits
    let count := label.length + 1
    let n := n + value / count
    if n.isValidChar then
      let bias := adapt (value - place) count (place == 0)
      insertAll? rounds bias n (value % count + 1)
        (label.insertIdx (value % count) (Char.ofNat n)) digits
    else none

/-- The label that an encoded label denotes, without the mark that tells it is encoded. -/
def decode? (encoded : List Char) : Option (List Char) :=
  let digits := (encoded.reverse.takeWhile (· ≠ '-')).reverse
  let basic := (encoded.reverse.dropWhile (· ≠ '-')).tail.reverse
  if basic.isEmpty then insertAll? encoded.length 72 128 0 [] encoded
  else insertAll? digits.length 72 128 0 basic digits

end AnnotationReview.Url.Punycode
