import AnnotationReview.Review.Command

/-!
# Runs

What may happen to the view of a mounted annotation: a run starts with a mount and goes on with
commands, each of which goes through some calls to the backend.  Nothing is assumed of the
outcomes of the calls, so a statement about all runs holds for every backend.
-/

namespace AnnotationReview.Review

open Backend (Dialogue)

/-- A command that was carried out: the calls it put with their outcomes, and its result. -/
structure Event where
  command : Command
  exchanges : List Dialogue.Exchange
  result : Except Error CommandResult

/-- The events may lead from the first view to the second. -/
inductive Run : View → List Event → View → Prop where
  | nil (view : View) : Run view [] view
  | cons {first next last : View} {command : Command} {exchanges : List Dialogue.Exchange}
      {result : Except Error CommandResult} {events : List Event}
      (head : Dialogue.Path (command.operation first) exchanges (result, next))
      (tail : Run next events last) : Run first (⟨command, exchanges, result⟩ :: events) last

/-- Mounting may go through the exchanges and lead to the view. -/
def Mounts (annotationId viewer text : String) (exchanges : List Dialogue.Exchange)
    (view : View) : Prop :=
  ∃ before result,
    Dialogue.Path (mount annotationId viewer text before) exchanges (result, view)

/-- The view may arise from a mount by some run. -/
def Reachable (view : View) : Prop :=
  ∃ annotationId viewer text exchanges mounted events,
    Mounts annotationId viewer text exchanges mounted ∧ Run mounted events view

end AnnotationReview.Review
