import AnnotationReview.Unicode.Composition

/-!
# Composed normal form

A letter with marks can often be written in several ways that mean the same.  The composed normal
form is one of them: every character is taken apart as far as possible, the marks behind a
character are brought into the order of their classes, and then pairs are put together again from
the left, each mark with the character it belongs to unless a mark of the same class stands
between them.
-/

namespace AnnotationReview.Unicode

/-- How deep pairs nest: a pair may begin with a pair, and that with another one. -/
def deepestPair : Nat := 3

/-- The characters that a character is composed of if pairs nest at most `depth` deep. -/
def decompose : Nat → Char → List Char
  | 0, c => [c]
  | depth + 1, c =>
    match pair? c with
    | some (a, b) => decompose depth a ++ decompose depth b
    | none => [c]

/-- A character with its combining class. -/
abbrev Classed := Char × Nat

/-- Puts a mark behind those of lower classes that follow it. -/
def insertMark (mark : Classed) : List Classed → List Classed
  | [] => [mark]
  | next :: rest =>
    if next.2 ≠ 0 ∧ next.2 < mark.2 then next :: insertMark mark rest
    else mark :: next :: rest

/-- Brings the marks behind each character into the order of their classes; marks of one class
keep their order. -/
def orderMarks (cs : List Classed) : List Classed :=
  cs.foldr insertMark []

/-- Composes from the left.  `base` is the last character of class zero and `marks` are those that
stay behind it, the last one first. -/
def composeOnto (base : Char) (marks : List Classed) : List Classed → List Char
  | [] => base :: marks.reverse.map Prod.fst
  | (c, k) :: rest =>
    let isBlocked := match marks with
      | [] => false
      | (_, last) :: _ => k ≤ last
    match if isBlocked then none else composite? base c with
    | some composite => composeOnto composite marks rest
    | none =>
      if k = 0 then base :: (marks.reverse.map Prod.fst ++ composeOnto c [] rest)
      else composeOnto base ((c, k) :: marks) rest

/-- Composes a text in order; marks at its beginning have nothing to be composed with. -/
def compose : List Classed → List Char
  | [] => []
  | (c, k) :: rest => if k = 0 then composeOnto c [] rest else c :: compose rest

/-- The composed normal form of a text. -/
def normalize (cs : List Char) : List Char :=
  compose (orderMarks ((cs.flatMap (decompose deepestPair)).map fun c => (c, combiningClass c)))

end AnnotationReview.Unicode
