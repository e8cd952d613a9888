import AnnotationReview.DomainError

/-!
# Status of an update

An update is open until it is accepted, rejected or retracted, and stays what it became: the
three closed statuses admit no further action.
-/

namespace AnnotationReview

/-- Where an update stands. -/
inductive Status where
  | opened
  | accepted
  | rejected
  | retracted
deriving DecidableEq, Repr

/-- What a viewer can do to an open update. -/
inductive Action where
  | accept
  | reject
  | retract
deriving DecidableEq, Repr

namespace Action

/-- The action as a verb. -/
def name : Action → String
  | .accept => "accept"
  | .reject => "reject"
  | .retract => "retract"

/-- The status an open update has after the action. -/
def result : Action → Status
  | .accept => .accepted
  | .reject => .rejected
  | .retract => .retracted

end Action

namespace Status

/-- The word the backend uses for the status. -/
def name : Status → String
  | .opened => "open"
  | .accepted => "accepted"
  | .rejected => "rejected"
  | .retracted => "retracted"

/-- The status a backend word stands for; the four words are matched exactly. -/
def ofName? : String → Option Status
  | "open" => some .opened
  | "accepted" => some .accepted
  | "rejected" => some .rejected
  | "retracted" => some .retracted
  | _ => none

theorem ofName?_name (status : Status) : ofName? status.name = some status := by
  cases status <;> rfl

theorem ofName?_eq_some_iff {word : String} {status : Status} :
    ofName? word = some status ↔ word = status.name := by
  constructor
  · fun_cases ofName? word <;> rintro ⟨⟩ <;> rfl
  · rintro rfl
    exact ofName?_name status

/-- `ofName?`, where an unknown word is an invalid input. -/
def parse (word : String) : Except DomainError Status :=
  match ofName? word with
  | some status => .ok status
  | none => .error <| .validation <|
      "Invalid update status '" ++ word ++ "'. Must be one of: open, accepted, rejected, retracted"

/-- Only an open update can be acted on. -/
def isOpen (status : Status) : Bool :=
  status == .opened

/-- The status after an action; a closed update refuses every action. -/
def apply (status : Status) (action : Action) : Except DomainError Status :=
  if status.isOpen then
    .ok action.result
  else
    .error <| .conflict <|
      "Cannot " ++ action.name ++ " an update that is already " ++ status.name

/-- Tries actions one after the other; a refused one leaves the status as it is.  Tells how each
of them went, and the status at the end. -/
def applyAll (status : Status) : List Action → List (Except DomainError Status) × Status
  | [] => ([], status)
  | action :: actions =>
    let outcome := status.apply action
    let (outcomes, last) := (outcome.toOption.getD status).applyAll actions
    (outcome :: outcomes, last)

end Status

end AnnotationReview
