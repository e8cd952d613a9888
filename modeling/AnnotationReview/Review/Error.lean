import AnnotationReview.Backend.Error
import AnnotationReview.View

/-!
# Failed operations

An operation fails because a review rule refuses it or because a call to the backend fails.
Either way the viewer gets a notice.
-/

namespace AnnotationReview.Review

/-- Why an operation failed. -/
inductive Error where
  | domain (error : DomainError)
  | backend (error : Backend.Error)
deriving DecidableEq, Repr

namespace Error

/-- The failure in one line. -/
def describe : Error → String
  | .domain error => error.describe
  | .backend error => error.describe

/-- The kind of the notice: a local refusal is an alert, unless the operation itself broke
down. -/
def noticeKind : Error → NoticeKind
  | .domain (.internal _) => .server
  | .domain _ => .alert
  | .backend error => if error.isTransport then .transport else .server

/-- The text of the notice; what an invalid input is told stands alone. -/
def noticeMessage : Error → String
  | .domain (.validation message) => message
  | error => error.describe

/-- The notice that reports the failure. -/
def notice (error : Error) : Notice := ⟨error.noticeKind, error.noticeMessage⟩

end Error

end AnnotationReview.Review
