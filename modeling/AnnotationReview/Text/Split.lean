/-!
# Dividing a text at a separator
-/

namespace AnnotationReview.Text

/-- The pieces between the occurrences of a separator; without one, the whole is the only
piece. -/
def splitOn (separator : Char) : List Char → List (List Char)
  | [] => [[]]
  | c :: cs =>
    if c = separator then [] :: splitOn separator cs
    else match splitOn separator cs with
      | [] => [[c]]
      | piece :: pieces => (c :: piece) :: pieces

/-- What stands before and behind the first occurrence of a separator; `none` if there is none. -/
def splitFirst? (separator : Char) : List Char → Option (List Char × List Char)
  | [] => none
  | c :: cs =>
    if c = separator then some ([], cs)
    else (splitFirst? separator cs).map fun (front, back) => (c :: front, back)

end AnnotationReview.Text
