import AnnotationReview.Review.Operations

/-!
# What can be asked of a mounted annotation

A `Command` names an operation with its arguments, so that sequences of operations can be written
down; its `operation` is what it does.
-/

namespace AnnotationReview.Review

/-- An operation with its arguments. -/
inductive Command where
  /-- Does nothing; it serves to look at the view. -/
  | inspect
  | openRejectionPanel (index : UInt32) (placeholder : String)
  | startRejection (index : UInt32)
  | cancelRejectionPanel (index : UInt32)
  | submitRejection (index : UInt32) (comment : String)
  | openEditPanel (target : EditTarget) (placeholder : String)
  | submitEdit (edited comment : String)
  | cancelEditPanel
  | refreshStatus (index : UInt32)
  | accept (index : UInt32)
  | retract (index : UInt32)
  | dismissNotice
deriving DecidableEq, Repr

/-- What a command gives when it succeeds. -/
inductive CommandResult where
  | done
  | reply (index : UInt32)
  | edit (outcome : EditOutcome)
  | status (status : Option Status)
deriving DecidableEq, Repr

/-- An operation whose result is put into another form. -/
def Operation.map {α β : Type} (f : α → β) (operation : Operation α) : Operation β := fun view => do
  let (result, view) ← operation view
  return (result.map f, view)

/-- An operation whose success is all there is to tell. -/
def Operation.asDone (operation : Operation Unit) : Operation CommandResult :=
  operation.map fun () => .done

/-- What a command does. -/
def Command.operation : Command → Operation CommandResult
  | .inspect => fun view => return (.ok .done, view)
  | .openRejectionPanel index placeholder => (Review.openRejectionPanel index placeholder).asDone
  | .startRejection index => (Review.startRejection index).asDone
  | .cancelRejectionPanel index => (Review.cancelRejectionPanel index).asDone
  | .submitRejection index comment => (Review.submitRejection index comment).map .reply
  | .openEditPanel target placeholder => (Review.openEditPanel target placeholder).asDone
  | .submitEdit edited comment => (Review.submitEdit edited comment).map .edit
  | .cancelEditPanel => Review.cancelEditPanel.asDone
  | .refreshStatus index => (Review.refreshStatus index).map .status
  | .accept index => (Review.accept index).asDone
  | .retract index => (Review.retract index).asDone
  | .dismissNotice => Review.dismissNotice.asDone

end AnnotationReview.Review
