import AnnotationReview.Url.Form

/-!
# Calls to the annotation backend

The backend keeps the annotations and their updates.  A `Call` is one question put to it on behalf
of a viewer; each kind of question has an endpoint, an ordered list of parameters and a type
of answer.
-/

namespace AnnotationReview.Backend

/-- A proposed update on its way to the backend. -/
structure Submission where
  annotationId : String
  text : String
  comment : String
  /-- The update that the submission answers, if it is a rejection reply. -/
  answered? : Option String
deriving DecidableEq, Repr

/-- What the backend says of an update it has saved. -/
structure Saved where
  updateId : String
  accessCode : String
  submittedAt : String
deriving DecidableEq, Repr

/-- What the backend says of an update that was accepted. -/
structure Accepted where
  newText : String
  oldText : Option String
deriving DecidableEq, Repr

/-- An update that the backend lists for an annotation. -/
structure Listed where
  updateId : String
  /-- Access code of the annotation's author. -/
  annotationAuthor : String
  /-- Access code of whoever proposed the update. -/
  proposer : String
  submittedAt : String
  text : String
  comment : String
deriving DecidableEq, Repr

/-- A question put to the backend. -/
inductive Query where
  | reject (updateId : String)
  | submit (submission : Submission)
  | statusOf (updateId : String)
  | accept (updateId : String)
  | retract (updateId : String)
  | updatesOf (annotationId : String)
deriving DecidableEq, Repr

namespace Query

/-- What the backend answers if all goes well. -/
abbrev Answer : Query → Type
  | .reject _ => Unit
  | .submit _ => Saved
  | .statusOf _ => String
  | .accept _ => Accepted
  | .retract _ => Unit
  | .updatesOf _ => List Listed

/-- The name of the endpoint that takes the question. -/
def endpoint : Query → String
  | .reject _ => "reject_update"
  | .submit _ => "submit_annotation_update"
  | .statusOf _ => "get_update_status"
  | .accept _ => "accept_update"
  | .retract _ => "retract_update"
  | .updatesOf _ => "get_relevant_updates"

/-- The question's parameters in their fixed order. -/
def parameters : Query → List Url.Parameter
  | .reject updateId | .statusOf updateId | .accept updateId | .retract updateId =>
    [("update_id", updateId)]
  | .updatesOf annotationId => [("annotation_id", annotationId)]
  | .submit submission =>
    [("annotation_id", submission.annotationId), ("update", submission.text),
      ("comment", submission.comment)] ++
    match submission.answered? with
    | some updateId => [("update_id", updateId)]
    | none => []

/-- What the question is about: an annotation for a submission and a list, else an update. -/
def subject : Query → String
  | .reject updateId | .statusOf updateId | .accept updateId | .retract updateId => updateId
  | .updatesOf annotationId => annotationId
  | .submit submission => submission.annotationId

end Query

/-- A question put on behalf of a viewer. -/
structure Call where
  viewer : String
  query : Query
deriving DecidableEq, Repr

/-- What the backend answers a call if all goes well. -/
abbrev Call.Answer (call : Call) : Type := call.query.Answer

end AnnotationReview.Backend
