import AnnotationReview.Json.Value
import AnnotationReview.Review.Error

/-!
# Errors of the host

What can go wrong with a request beyond a failed operation, and how every error is answered: a
status, a code for programs and a message for people.  A breakdown inside the host, or on the way
to the backend, is told without its details.
-/

namespace AnnotationReview.Host

/-- Why a request was not carried out. -/
inductive Error where
  | review (error : Review.Error)
  /-- The request does not name a viewer. -/
  | unauthorized (message : String)
  | badRequest (message : String)
deriving DecidableEq, Repr

/-- How an error is answered. -/
structure Answer where
  status : Nat
  code : String
  message : String
deriving DecidableEq, Repr

namespace Error

/-- The error in one line. -/
def describe : Error → String
  | .review error => error.describe
  | .unauthorized message => "Unauthorized: " ++ message
  | .badRequest message => "Bad request: " ++ message

/-- The answer to an error. -/
def answer : Error → Answer
  | .review (.domain (.notFound entity id)) =>
    ⟨404, "NOT_FOUND", entity ++ " with id " ++ id ++ " not found"⟩
  | .review (.domain (.validation message)) => ⟨400, "VALIDATION_ERROR", message⟩
  | .review (.domain (.conflict message)) => ⟨409, "CONFLICT", message⟩
  | .review (.domain (.forbidden message)) => ⟨403, "FORBIDDEN", message⟩
  | .review (.domain (.internal _)) => ⟨500, "INTERNAL_ERROR", "An internal error occurred"⟩
  | .review (.backend error) =>
    if error.isTransport then
      ⟨502, "BACKEND_UNAVAILABLE", "The annotation backend could not be reached"⟩
    else ⟨502, "BACKEND_ERROR", error.describe⟩
  | .unauthorized message => ⟨401, "UNAUTHORIZED", message⟩
  | .badRequest message => ⟨400, "BAD_REQUEST", message⟩

end Error

/-- The body of an answer to an error. -/
def Answer.body (answer : Answer) : Json.Value :=
  .object [("error", .string answer.message), ("code", .string answer.code)]

end AnnotationReview.Host
