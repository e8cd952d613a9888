import AnnotationReview.Url.Domain.Label

/-!
# Domain names

`Domain.toAscii?` gives the form in which a domain name is looked up.  A name whose characters are
all in ASCII only changes its capitals into small letters; any other goes through the mapping of
its characters, the composed normal form and the rules for its labels.
-/

namespace AnnotationReview.Url.Domain

/-- Labels with dots between them. -/
def joinLabels (labels : List (List Char)) : List Char :=
  ".".toList.intercalate labels

/-- The name has neither a character outside ASCII nor a label that stands for one. -/
def isPlain (name : List Char) : Bool :=
  name.all isAscii && (Text.splitOn '.' name).all fun label =>
    !encodedMark.isPrefixOf (label.map Char.toLower)

/-- The labels of a name; `none` if one of its characters is disallowed or one of its labels breaks
a rule. -/
def labels? (name : List Char) : Option (List Label) := do
  let mapped ← name.mapM replacement?
  let labels ← (Text.splitOn '.' (Unicode.normalize mapped.flatten)).mapM Label.read?
  let texts := labels.map Label.text
  if texts.any (·.any runsFromRight) ∧ !texts.all keepsDirection then none
  else if texts.any (·.any isForbidden) then none
  else some labels

/-- The name as it is looked up; `none` if it is no domain name. -/
def toAscii? (name : List Char) : Option (List Char) :=
  if isPlain name then
    if name.any isForbidden then none else some (name.map Char.toLower)
  else
    (labels? name).map fun labels => joinLabels (labels.map Label.ascii)

end AnnotationReview.Url.Domain
