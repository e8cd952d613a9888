import AnnotationReview.Backend.Call
import AnnotationReview.Comment
import AnnotationReview.View

/-!
# What is sent for a submission

The checks that stand in front of a submission, and the submission that a view and a comment
make.  A refusal here means that nothing is sent.
-/

namespace AnnotationReview

open Backend (Listed Saved Submission)

/-- The rejection of an entry: the update it closes, and the present text sent again in answer
to that update.  The panel of the entry has to be open, the viewer has to be allowed to reject
it, and the comment has to be long enough, in this order. -/
def View.rejectionReply (view : View) (index : UInt32) (comment : String) :
    Except DomainError (String × Submission) := do
  let _ ← view.panels.require (.entry index)
  let entry ← view.actionable index .reject
  Comment.check comment .rejection
  let target := entry.update.id
  return (target, ⟨view.annotationId, view.text, comment, some target⟩)

/-- The edit of the annotation; `none` if it leaves the text as it is, whatever the comment. -/
def View.proposedEdit (view : View) (edited comment : String) :
    Except DomainError (Option Submission) := do
  let _ ← view.panels.require .text
  if isVacuousEdit view.text edited then
    return none
  else
    Comment.check comment .edit
    return some ⟨view.annotationId, edited, comment, none⟩

/-- The update that a saved submission has become. -/
def Update.ofSaved (saved : Saved) (submission : Submission) (origin : Origin) : Update where
  id := saved.updateId
  proposer := saved.accessCode
  submittedAt := saved.submittedAt
  text := submission.text
  comment := submission.comment
  origin

/-- The update that the backend lists.  It is the author's own if its proposer wrote the
annotation. -/
def Update.ofListed (listed : Listed) : Update where
  id := listed.updateId
  proposer := listed.proposer
  submittedAt := listed.submittedAt
  text := listed.text
  comment := listed.comment
  origin := if listed.proposer = listed.annotationAuthor then .author else .judger

end AnnotationReview
