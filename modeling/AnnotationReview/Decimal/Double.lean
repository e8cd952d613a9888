/-!
# Double-precision numbers, exactly

A `Double` is a sign, a significand below 2⁵³ and a power of two, so every value is an exact
number and all arithmetic here is on integers.  `ofDecimal?` rounds a decimal to the nearest
double, a tie going to the even significand; `shortest` finds the fewest decimal digits that
round back, and of those the nearest ones.
-/

namespace AnnotationReview

/-- The number `± significand · 2 ^ exponent`. -/
structure Double where
  negative : Bool
  significand : Nat
  exponent : Int
deriving DecidableEq, Repr

namespace Double

/-- The least exponent, which the subnormal numbers and zero have. -/
def minExponent : Int := -1074

/-- The greatest exponent of a finite number. -/
def maxExponent : Int := 971

/-- The significand of a normal number reaches this value and stays below its double. -/
def leastNormal : Nat := Nat.pow 2 52

/-- Numerator and denominator of `n · base ^ e`. -/
def ratio (n base : Nat) (e : Int) : Nat × Nat :=
  if 0 ≤ e then (n * Nat.pow base e.toNat, 1) else (n, Nat.pow base (-e).toNat)

/-- A quotient rounded to the nearest integer, a tie going to the even one. -/
def roundHalfEven (num den : Nat) : Nat :=
  let q := num / den
  let r := num % den
  if 2 * r < den then q
  else if den < 2 * r then q + 1
  else q + q % 2

/-- The exponent of the double nearest to a positive quotient, before rounding up to the next
power of two. -/
def exponentOf (num den : Nat) : Int :=
  let log : Int := (Nat.log2 num : Int) - (Nat.log2 den : Int)
  let (power, unit) := ratio 1 2 log
  let fits := num * unit < den * power
  max minExponent (if fits then log - 53 else log - 52)

/-- The double nearest to a quotient; `none` beyond the greatest finite one. -/
def ofRatio? (negative : Bool) (num den : Nat) : Option Double :=
  if num = 0 then some ⟨negative, 0, minExponent⟩
  else
    let e := exponentOf num den
    let (unit, scale) := ratio 1 2 e
    let m := roundHalfEven (num * scale) (den * unit)
    let (m, e) := if m = 2 * leastNormal then (leastNormal, e + 1) else (m, e)
    if maxExponent < e then none else some ⟨negative, m, e⟩

/-- The double nearest to `± digits · 10 ^ e`; `none` beyond the greatest finite one.  Decimals
far outside the range are decided by their order of magnitude. -/
def ofDecimal? (negative : Bool) (digits : Nat) (e : Int) : Option Double :=
  let magnitude := e + (Nat.toDigits 10 digits).length
  if digits = 0 ∨ magnitude < -400 then some ⟨negative, 0, minExponent⟩
  else if 400 < magnitude then none
  else
    let (num, den) := ratio digits 10 e
    ofRatio? negative num den

/-- The exact value without its sign. -/
def magnitude (d : Double) : Nat × Nat :=
  ratio d.significand 2 d.exponent

/-- The numbers that round to `d` lie between two bounds, given over a common denominator as
`(lower, upper, denominator)`. -/
def bounds (d : Double) : Nat × Nat × Nat :=
  let (unit, den) := ratio 1 2 (d.exponent - 2)
  let below := if d.significand = leastNormal ∧ minExponent < d.exponent then 1 else 2
  ((4 * d.significand - below) * unit, (4 * d.significand + 2) * unit, den)

/-- `n · 10 ^ k` rounds to `d`.  The bounds belong to `d` when its significand is even. -/
def isReadBack (d : Double) (n : Nat) (k : Int) : Bool :=
  let (lower, upper, den) := d.bounds
  let (num, unit) := ratio n 10 k
  let x := num * den
  if d.significand % 2 = 0 then lower * unit ≤ x && x ≤ upper * unit
  else lower * unit < x && x < upper * unit

/-- The power of ten that is at most a positive value; the search starts at a lower estimate. -/
def decimalExponent (num den : Nat) : Int :=
  let log : Int := (Nat.log2 num : Int) - (Nat.log2 den : Int)
  let start := (log - 1) * 30103 / 100000 - 1
  let reaches (k : Int) : Bool :=
    let (power, unit) := ratio 1 10 k
    den * power ≤ num * unit
  [start + 3, start + 2, start + 1].find? reaches |>.getD start

/-- The nearest number of the grid `10 ^ k` that reads back as `d`, if there is one; of two that
are equally near, the even one. -/
def onGrid? (d : Double) (k : Int) : Option Nat :=
  let (num, den) := d.magnitude
  let (power, unit) := ratio 1 10 k
  let scaled := num * unit
  let step := den * power
  let low := scaled / step
  let high := low + 1
  let nearest := roundHalfEven scaled step
  let nearer := if nearest = low then [low, high] else [high, low]
  nearer.find? fun n => d.isReadBack n k

/-- Divides out the factors of ten of a number and counts them in an exponent. -/
def stripZeros : Nat → Nat → Int → Nat × Int
  | 0, n, k => (n, k)
  | fuel + 1, n, k => if n % 10 = 0 ∧ n ≠ 0 then stripZeros fuel (n / 10) (k + 1) else (n, k)

/-- The fewest digits that read back, as a number and a power of ten.  Seventeen digits always
do. -/
def shortest (d : Double) : Nat × Int :=
  if d.significand = 0 then (0, 0)
  else
    let (num, den) := d.magnitude
    let top := decimalExponent num den
    let grids : List Int := (List.range 17).map fun (digits : Nat) => top - (digits : Int)
    match grids.findSome? fun k => (d.onGrid? k).map fun n => (n, k) with
    | some (n, k) => stripZeros 20 n k
    | none => (0, 0)

end Double

end AnnotationReview
