import AnnotationReview.DomainError

/-!
# Comments that accompany a submission

A rejection and an edit both need an explanation of at least ten characters, counted as code
points, blanks included.
-/

namespace AnnotationReview

/-- What a comment explains; it selects the wording of the complaint. -/
inductive CommentPurpose where
  | rejection
  | edit
deriving DecidableEq, Repr

namespace CommentPurpose

/-- What the viewer is told when the comment is too short. -/
def complaint : CommentPurpose → String
  | .rejection => "Please explain your rejection of the modification in more detail."
  | .edit => "Please explain your edits in more detail for the reference of others."

/-- The hint a compose panel shows by default. -/
def hint : CommentPurpose → String
  | .rejection => "Leave a comment for rejecting the modification request..."
  | .edit => "Explain your edits for the reference of others..."

end CommentPurpose

namespace Comment

/-- The least number of characters of a comment that can be sent. -/
def minLength : Nat := 10

/-- Refuses a comment that is too short. -/
def check (comment : String) (purpose : CommentPurpose) : Except DomainError Unit :=
  if comment.length < minLength then
    .error (.validation purpose.complaint)
  else
    .ok ()

end Comment

/-- An edit that leaves the text as it is proposes nothing. -/
def isVacuousEdit (current edited : String) : Bool :=
  current == edited

end AnnotationReview
