import AnnotationReview.Text.Split

/-!
# Tables of character properties

A property of characters is given by rows, each of which tells of the code points from one to
another, at a fixed distance, what their value is.  The rows are written as words between blanks:
`41-5A:61` is the row of all code points from 41 to 5A with the value 61, `100-12E/2:101` the row
of every second one, `BC:31,2044,34` a row of one code point with three numbers as its value, and
a word without a colon is a row without a value.  All numbers are hexadecimal, in upper case.
-/

namespace AnnotationReview.Unicode

/-- Some code points and the value of a property for them. -/
structure Row where
  first : Nat
  last : Nat
  /-- The distance from one code point of the row to the next. -/
  step : Nat
  value : List Nat
deriving DecidableEq, Repr

/-- The number that hexadecimal digits in upper case denote. -/
def hexNumber (digits : List Char) : Nat :=
  digits.foldl (fun n c => n * 16 + (if c.isDigit then c.toNat - 48 else c.toNat - 55)) 0

namespace Row

/-- The row tells of the character. -/
def covers (row : Row) (c : Char) : Bool :=
  row.first ≤ c.toNat && c.toNat ≤ row.last && (c.toNat - row.first) % row.step == 0

/-- The row that a word writes. -/
def ofWord (word : List Char) : Row :=
  let (extent, value) := (Text.splitFirst? ':' word).getD (word, [])
  let (bounds, step) := (Text.splitFirst? '/' extent).getD (extent, ['1'])
  let (first, last) := (Text.splitFirst? '-' bounds).getD (bounds, bounds)
  { first := hexNumber first
    last := hexNumber last
    step := hexNumber step
    value := if value.isEmpty then [] else (Text.splitOn ',' value).map hexNumber }

end Row

/-- The words between blanks. -/
def words (cs : List Char) : List (List Char) :=
  let (word, more) := cs.foldr (fun c (word, more) =>
    if !c.isWhitespace then (c :: word, more)
    else ([], if word.isEmpty then more else word :: more)) ([], [])
  if word.isEmpty then more else word :: more

/-- A property as rows. -/
abbrev Table := List Row

namespace Table

/-- The table whose rows are the words of a text. -/
def ofText (text : String) : Table :=
  (words text.toList).map Row.ofWord

/-- The first row that tells of a character. -/
def row? (table : Table) (c : Char) : Option Row :=
  table.find? (·.covers c)

/-- Some row tells of the character. -/
def covers (table : Table) (c : Char) : Bool :=
  table.any (·.covers c)

end Table

end AnnotationReview.Unicode
