import AnnotationReview.Status

/-!
# The thread of updates under an annotation

Entries stand in the order in which they were appended and are addressed by an index that a
growing counter hands out, so an index is not used again after its entry is gone.  The module
also holds the two rules on roles: which controls an entry offers to a viewer, and which
actions the viewer is allowed.
-/

namespace AnnotationReview

/-- Whether an update was proposed by the annotation's author or by somebody judging it. -/
inductive Origin where
  | author
  | judger
deriving DecidableEq, Repr

/-- The class name that marks the origin in the markup. -/
def Origin.tag : Origin → String
  | .author => "by-author"
  | .judger => "by-judger"

/-- A proposed replacement of the annotation's text, with its explanation. -/
structure Update where
  /-- The backend's name for the update. -/
  id : String
  /-- Access code of whoever proposed it. -/
  proposer : String
  submittedAt : String
  text : String
  comment : String
  origin : Origin
deriving DecidableEq, Repr

/-- An update as the thread shows it. -/
structure Entry where
  index : UInt32
  update : Update
  /-- `none` until the backend has reported one. -/
  status : Option Status
  hidden : Bool
deriving DecidableEq, Repr

/-- The entries shown under an annotation and the index the next one receives. -/
structure Thread where
  entries : List Entry
  nextIndex : UInt32
deriving DecidableEq, Repr

/-- What an entry offers to a viewer. -/
inductive Controls where
  /-- Nothing: the status is unknown or closed, or the entry is hidden. -/
  | inert
  /-- The viewer did not propose the update and may judge it.  Changing it is never offered. -/
  | review (rejectEnabled : Bool)
  /-- The viewer proposed the update and may take it back. -/
  | retract
deriving DecidableEq, Repr

namespace Entry

/-- The backend has reported the update as open. -/
def isOpen (entry : Entry) : Bool :=
  entry.status.any Status.isOpen

/-- An entry can be acted on while it is open and shown. -/
def isLive (entry : Entry) : Bool :=
  entry.isOpen && !entry.hidden

/-- The viewer is the one who proposed the update. -/
def proposedBy (entry : Entry) (viewer : String) : Bool :=
  entry.update.proposer == viewer

/-- The controls offered to a viewer; rejecting is disabled while a rejection is being
written. -/
def controlsFor (entry : Entry) (viewer : String) (panelOpen : Bool) : Controls :=
  if entry.isLive then
    if entry.proposedBy viewer then .retract else .review (!panelOpen)
  else
    .inert

/-- Taking back is for the proposer alone, accepting and rejecting for everybody else. -/
def authorize (entry : Entry) (viewer : String) (action : Action) : Except DomainError Unit :=
  match action, entry.proposedBy viewer with
  | .retract, false => .error (.forbidden "Only the proposer can retract an update")
  | .accept, true | .reject, true =>
    .error (.forbidden ("The proposer cannot " ++ action.name ++ " their own update"))
  | _, _ => .ok ()

end Entry

namespace Thread

/-- A thread without entries, whose first index is zero. -/
def empty : Thread := ⟨[], 0⟩

/-- Appends an update with unknown status under the next index. -/
def append (thread : Thread) (update : Update) : UInt32 × Thread :=
  (thread.nextIndex,
    { entries := thread.entries ++ [⟨thread.nextIndex, update, none, false⟩]
      nextIndex := thread.nextIndex + 1 })

@[simp] theorem entries_append (thread : Thread) (update : Update) :
    (thread.append update).2.entries =
      thread.entries ++ [⟨thread.nextIndex, update, none, false⟩] := rfl

@[simp] theorem nextIndex_append (thread : Thread) (update : Update) :
    (thread.append update).2.nextIndex = thread.nextIndex + 1 := rfl

/-- The first entry with an index. -/
def find? (thread : Thread) (index : UInt32) : Option Entry :=
  thread.entries.find? (·.index == index)

/-- The entry with an index, or a refusal that names the index. -/
def get (thread : Thread) (index : UInt32) : Except DomainError Entry :=
  match thread.find? index with
  | some entry => .ok entry
  | none => .error (.notFound "ThreadEntry" (toString index.toNat))

/-- Changes the first entry with an index and leaves the others alone. -/
def modify (thread : Thread) (index : UInt32) (change : Entry → Entry) : Thread :=
  { thread with
    entries := thread.entries.modify (thread.entries.findIdx (·.index == index)) change }

/-- Takes out the first entry with an index; the counter stays. -/
def erase (thread : Thread) (index : UInt32) : Thread :=
  { thread with entries := thread.entries.eraseP (·.index == index) }

/-- Records the status the backend reports for an entry, whatever it was before. -/
def setStatus (thread : Thread) (index : UInt32) (status : Status) : Except DomainError Thread := do
  let _ ← thread.get index
  return thread.modify index fun entry => { entry with status := some status }

/-- The status an entry would have after an action; an entry of unknown status has none. -/
def statusAfter (thread : Thread) (index : UInt32) (action : Action) :
    Except DomainError Status := do
  let entry ← thread.get index
  match entry.status with
  | some status => status.apply action
  | none => .error (.conflict ("Status of update " ++ entry.update.id ++ " is not known yet"))

/-- Applies an action to the status of an entry. -/
def transition (thread : Thread) (index : UInt32) (action : Action) :
    Except DomainError (Status × Thread) := do
  let status ← thread.statusAfter index action
  return (status, thread.modify index fun entry => { entry with status := some status })

/-- Marks an entry accepted and hides it. -/
def markAccepted (thread : Thread) (index : UInt32) : Except DomainError Thread := do
  let status ← thread.statusAfter index .accept
  return thread.modify index fun entry => { entry with status := some status, hidden := true }

/-- Marks an entry rejected; it stays visible and loses its controls. -/
def markRejected (thread : Thread) (index : UInt32) : Except DomainError Thread := do
  let (_, thread) ← thread.transition index .reject
  return thread

/-- Retracts an entry and takes it out of the thread; the answer is the entry as retracted. -/
def removeRetracted (thread : Thread) (index : UInt32) : Except DomainError (Entry × Thread) := do
  let status ← thread.statusAfter index .retract
  let entry ← thread.get index
  return ({ entry with status := some status }, thread.erase index)

/-- The entries that are not hidden. -/
def visible (thread : Thread) : List Entry :=
  thread.entries.filter fun entry => !entry.hidden

end Thread

end AnnotationReview
