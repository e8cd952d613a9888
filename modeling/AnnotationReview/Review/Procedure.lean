import AnnotationReview.Backend.Dialogue
import AnnotationReview.Review.Error
import AnnotationReview.Text.Quoted

/-!
# Procedures on a view

A `Procedure` works on one view and may put calls to the backend in between.  It ends by
returning a value, by failing, or by being aborted when a call breaks down; changes made to the
view before that stay.  An `Operation` is a procedure whose end is settled: a failure has become
an error and a notice on the view.
-/

namespace AnnotationReview.Review

open Backend (Answers Call Dialogue Outcome)

/-- How a procedure ends. -/
inductive Ending (α : Type) where
  | returned (value : α)
  | failed (error : Error)
  | aborted (message : String)
deriving Repr

/-- A computation on a view that may put calls to the backend. -/
def Procedure (α : Type) : Type := View → Dialogue (Ending α × View)

namespace Procedure

variable {α β : Type}

/-- Goes on with the value of a procedure, if it returns one. -/
def bind (p : Procedure α) (f : α → Procedure β) : Procedure β := fun view => do
  match ← p view with
  | (.returned value, view) => f value view
  | (.failed error, view) => return (.failed error, view)
  | (.aborted message, view) => return (.aborted message, view)

instance : Monad Procedure where
  pure value := fun view => return (.returned value, view)
  bind := Procedure.bind

/-- The view as it is. -/
def view : Procedure View := fun view => return (.returned view, view)

/-- Puts another view in the place of the present one. -/
def setView (view : View) : Procedure Unit := fun _ => return (.returned (), view)

/-- Fails. -/
def fail (error : Error) : Procedure α := fun view => return (.failed error, view)

/-- What a review rule allows, or its refusal. -/
def check (result : Except DomainError α) : Procedure α :=
  match result with
  | .ok value => pure value
  | .error error => fail (.domain error)

/-- Puts a call; one that breaks down aborts the procedure. -/
def put (call : Call) : Procedure (Except Backend.Error call.Answer) := fun view => do
  match ← Dialogue.put call with
  | .answered answer => return (.returned (.ok answer), view)
  | .failed error => return (.returned (.error error), view)
  | .panicked message => return (.aborted message, view)

/-- Puts calls together; if one breaks down it aborts the procedure, whatever the others come to. -/
def putAll (calls : List Call) : Procedure (Answers calls) := fun view => do
  match ← Dialogue.putAll calls with
  | .ok answers => return (.returned answers, view)
  | .error message => return (.aborted message, view)

/-- What a call answered, or its failure. -/
def expect (result : Except Backend.Error α) : Procedure α :=
  match result with
  | .ok value => pure value
  | .error error => fail (.backend error)

/-- Puts a call that has to be answered. -/
def require (call : Call) : Procedure call.Answer := do
  expect (← put call)

/-- Carries a procedure out and turns its failure into a notice. -/
def attempt (p : Procedure α) : Procedure Unit := fun view => do
  match ← p view with
  | (.returned _, view) => return (.returned (), view)
  | (.failed error, view) => return (.returned (), { view with notice := some error.notice })
  | (.aborted message, view) => return (.aborted message, view)

end Procedure

/-- A settled computation on a view. -/
abbrev Operation (α : Type) : Type := View → Dialogue (Except Error α × View)

/-- The error of an operation that was aborted; `N` stands for the number of its task. -/
def abortion (message : String) : Error :=
  .domain <| .internal <|
    "Widget operation aborted: task N panicked with message " ++ Text.quote message

/-- Settles a procedure: a failure is reported to the caller and on the view. -/
def Procedure.settle {α : Type} (p : Procedure α) : Operation α := fun view => do
  match ← p view with
  | (.returned value, view) => return (.ok value, view)
  | (.failed error, view) => return (.error error, { view with notice := some error.notice })
  | (.aborted message, view) =>
    let error := abortion message
    return (.error error, { view with notice := some error.notice })

end AnnotationReview.Review
