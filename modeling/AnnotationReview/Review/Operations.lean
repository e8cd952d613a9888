import AnnotationReview.Review.Procedure
import AnnotationReview.Review.Submission

/-!
# The operations on a mounted annotation

Each operation checks the review rules against the view, puts its calls to the backend, and then
takes the confirmed step.  A check that refuses comes before any call.  After a submission the
status of the new entry is looked up; that lookup can fail without undoing the submission.
-/

namespace AnnotationReview.Review

open Backend (Answers Call Listed)
open Procedure

/-! ## Panels -/

/-- Opens the rejection panel of an entry. -/
def openRejectionPanel (index : UInt32) (placeholder : String) : Operation Unit :=
  settle do
    let now ← view
    setView (← check (now.openRejectionPanel index placeholder))

/-- The control that starts a rejection. -/
def startRejection (index : UInt32) : Operation Unit :=
  openRejectionPanel index CommentPurpose.rejection.hint

/-- Closes the rejection panel of an entry. -/
def cancelRejectionPanel (index : UInt32) : Operation Unit :=
  settle do
    let now ← view
    setView (← check (now.cancelRejectionPanel index))

/-- Starts an edit of the annotation. -/
def openEditPanel (target : EditTarget) (placeholder : String) : Operation Unit :=
  settle do
    let now ← view
    setView (← check (now.openEditPanel target placeholder))

/-- Gives up an edit. -/
def cancelEditPanel : Operation Unit :=
  settle do
    let now ← view
    setView now.cancelEditPanel

/-- Takes the notice down. -/
def dismissNotice : Operation Unit :=
  settle do
    let now ← view
    setView now.dismissNotice.2

/-! ## Statuses -/

/-- Records what the backend said of an entry's status; a word that is no status changes
nothing. -/
def recordStatus (index : UInt32) (word : String) : Procedure (Option Status) := do
  match Status.ofName? word with
  | none => return none
  | some status =>
    let now ← view
    let thread ← check (now.thread.setStatus index status)
    setView { now with thread }
    return some status

/-- Looks up the status of an entry. -/
def lookUpStatus (index : UInt32) : Procedure (Option Status) := do
  let now ← view
  let entry ← check (now.thread.get index)
  let word ← require ⟨now.viewer, .statusOf entry.update.id⟩
  recordStatus index word

/-- Looks up the status of an entry again; the answer is `none` if the backend's word is no
status. -/
def refreshStatus (index : UInt32) : Operation (Option Status) :=
  settle (lookUpStatus index)

/-! ## Submissions -/

/-- Puts up a notice if the backend saved a reply and yet did not close the update it answers. -/
def reportUnrejected (target : String) (rejected : Except Backend.Error Unit) :
    Procedure Unit := do
  match rejected with
  | .ok () => return ()
  | .error error =>
    let error := Error.backend error
    let now ← view
    setView <| now.raise error.noticeKind <|
      "The reply was saved but update " ++ target ++ " was not marked rejected: " ++
        error.describe

/-- Sends the rejection of an entry and appends the reply; the answer is the reply's index.  The
update is closed and the reply sent at the same time, so that the reply is saved whether or not the
update could be closed. -/
def submitRejection (index : UInt32) (comment : String) : Operation UInt32 :=
  settle do
    let now ← view
    let (target, submission) ← check (now.rejectionReply index comment)
    let (rejected, saved, ()) ←
      putAll [⟨now.viewer, .reject target⟩, ⟨now.viewer, .submit submission⟩]
    let saved ← expect saved
    let now ← view
    let (newIndex, replied) ←
      check (now.applyRejectionReply index (.ofSaved saved submission .author))
    setView replied
    reportUnrejected target rejected
    attempt (lookUpStatus newIndex)
    return newIndex

/-- What became of an edit. -/
inductive EditOutcome where
  /-- The text is as it was; nothing was sent. -/
  | unchanged
  /-- The edit is the entry with an index. -/
  | submitted (index : UInt32)
deriving DecidableEq, Repr

/-- Sends an edit of the annotation and appends it to the thread. -/
def submitEdit (edited comment : String) : Operation EditOutcome :=
  settle do
    let now ← view
    match ← check (now.proposedEdit edited comment) with
    | none => return .unchanged
    | some submission =>
      let saved ← require ⟨now.viewer, .submit submission⟩
      let now ← view
      let (newIndex, edited) := now.applyEditSubmitted (.ofSaved saved submission .judger)
      setView edited
      attempt (lookUpStatus newIndex)
      return .submitted newIndex

/-! ## Decisions -/

/-- Accepts the update of an entry; its text becomes the annotation's. -/
def accept (index : UInt32) : Operation Unit :=
  settle do
    let now ← view
    let entry ← check (now.actionable index .accept)
    let accepted ← require ⟨now.viewer, .accept entry.update.id⟩
    let now ← view
    setView (← check (now.applyAccept index accepted.newText accepted.oldText))

/-- Takes the viewer's own update back. -/
def retract (index : UInt32) : Operation Unit :=
  settle do
    let now ← view
    let entry ← check (now.actionable index .retract)
    let () ← require ⟨now.viewer, .retract entry.update.id⟩
    let now ← view
    let (_, retracted) ← check (now.applyRetract index)
    setView retracted

/-! ## Mounting -/

/-- Appends listed updates in their order and tells the index and the name of each. -/
def appendListed : List Listed → Thread → List (UInt32 × String) × Thread
  | [], thread => ([], thread)
  | listed :: more, thread =>
    let (index, thread) := thread.append (.ofListed listed)
    let (appended, thread) := appendListed more thread
    ((index, listed.updateId) :: appended, thread)

/-- The calls that look up the statuses of entries by their names. -/
def lookUpCalls (viewer : String) (names : List (UInt32 × String)) : List Call :=
  names.map fun (_, updateId) => ⟨viewer, .statusOf updateId⟩

/-- What look-ups have come to, under the indices of the entries. -/
def lookUpResults (viewer : String) : (names : List (UInt32 × String)) →
    Answers (lookUpCalls viewer names) → List (UInt32 × Except Backend.Error String)
  | [], _ => []
  | (index, _) :: more, (result, answers) => (index, result) :: lookUpResults viewer more answers

/-- Looks up the statuses of all entries at the same time, and waits for all of them. -/
def lookUpAll (viewer : String) (names : List (UInt32 × String)) :
    Procedure (List (UInt32 × Except Backend.Error String)) := do
  let answers ← putAll (lookUpCalls viewer names)
  return lookUpResults viewer names answers

/-- Records the statuses that were found and tells the first failure. -/
def recordAll :
    List (UInt32 × Except Backend.Error String) → Procedure (Option Backend.Error)
  | [] => return none
  | (index, .ok word) :: more => do
    let _ ← recordStatus index word
    recordAll more
  | (_, .error error) :: more => do
    let _ ← recordAll more
    return some error

/-- Loads the updates of the annotation and their statuses.  A failed lookup leaves its entry
without a status and fails the whole after everything else is recorded. -/
def loadThread : Procedure Nat := do
  let now ← view
  let listed ← require ⟨now.viewer, .updatesOf now.annotationId⟩
  let now ← view
  let (appended, thread) := appendListed listed now.thread
  setView { now with thread }
  let results ← lookUpAll now.viewer appended
  match ← recordAll results with
  | none => return appended.length
  | some error => fail (.backend error)

/-- Starts over with a fresh view of an annotation and loads its thread. -/
def mount (annotationId viewer text : String) : Operation Nat :=
  settle do
    setView (.fresh annotationId viewer text)
    loadThread

end AnnotationReview.Review
