/-!
# Refusals of the review rules

A rule of the review process that says no does so with a `DomainError`: something addressed
does not exist, an input is not valid, the state does not allow the step, the viewer's role
does not allow it, or an operation broke down.  The class decides how a refusal is shown and
answered; the text says what was refused.
-/

namespace AnnotationReview

/-- Why a rule of the review process refused. -/
inductive DomainError where
  /-- No `entity` goes by the name `id`. -/
  | notFound (entity id : String)
  /-- An input does not meet its rule. -/
  | validation (message : String)
  /-- The present state does not allow the step. -/
  | conflict (message : String)
  /-- The viewer's role does not allow the step. -/
  | forbidden (message : String)
  /-- An operation broke down. -/
  | internal (message : String)
deriving DecidableEq, Repr

namespace DomainError

/-- The refusal in one line, its class first. -/
def describe : DomainError → String
  | .notFound entity id => "Entity not found: " ++ entity ++ " with id " ++ id
  | .validation message => "Validation failed: " ++ message
  | .conflict message => "Conflict: " ++ message
  | .forbidden message => "Forbidden: " ++ message
  | .internal message => "Internal error: " ++ message

end DomainError

end AnnotationReview
