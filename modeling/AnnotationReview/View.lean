import AnnotationReview.Panel
import AnnotationReview.Thread

/-!
# What a viewer sees of an annotation

A `View` is the state behind the markup of one annotation as one viewer sees it.  The steps
named `apply…` are taken only once the backend has confirmed the request behind them.
Each of them succeeds as a whole or leaves no trace.
-/

namespace AnnotationReview

/-- Whether the text is shown or being edited. -/
inductive Display where
  | viewing
  | editing (draft : String)
deriving DecidableEq, Repr

/-- What kind of trouble a notice reports. -/
inductive NoticeKind where
  /-- A local rule refused; nothing was sent. -/
  | alert
  /-- No usable answer arrived. -/
  | transport
  /-- The backend answered with a failure. -/
  | server
deriving DecidableEq, Repr

/-- The word for the kind in the markup. -/
def NoticeKind.name : NoticeKind → String
  | .alert => "alert"
  | .transport => "transport"
  | .server => "server"

/-- A message above the thread, which the viewer can dismiss. -/
structure Notice where
  kind : NoticeKind
  message : String
deriving DecidableEq, Repr

/-- One annotation as one viewer sees it. -/
structure View where
  annotationId : String
  viewer : String
  text : String
  /-- The text that the latest accepted update replaced. -/
  previousText : Option String
  display : Display
  /-- The control that starts an edit is offered. -/
  editOffered : Bool
  thread : Thread
  panels : PanelSet
  notice : Option Notice
deriving DecidableEq, Repr

namespace View

/-- The view of an annotation whose updates are not loaded yet. -/
def fresh (annotationId viewer text : String) : View where
  annotationId
  viewer
  text
  previousText := none
  display := .viewing
  editOffered := true
  thread := .empty
  panels := .empty
  notice := none

/-- The controls an entry offers to the view's viewer. -/
def controls (view : View) (entry : Entry) : Controls :=
  entry.controlsFor view.viewer (view.panels.isOpen (.entry entry.index))

/-- The entry with an index, provided that the viewer may take an action on it now. -/
def actionable (view : View) (index : UInt32) (action : Action) : Except DomainError Entry := do
  let entry ← view.thread.get index
  if entry.isLive then
    entry.authorize view.viewer action
    return entry
  else
    .error (.conflict ("Update " ++ entry.update.id ++ " is not open"))

/-- Puts up a notice in place of the present one. -/
def raise (view : View) (kind : NoticeKind) (message : String) : View :=
  { view with notice := some ⟨kind, message⟩ }

/-- Takes the notice down. -/
def dismissNotice (view : View) : Option Notice × View :=
  (view.notice, { view with notice := none })

/-! ## Panels -/

/-- The view without the panel at a place. -/
def closePanel (view : View) (key : PanelKey) : View :=
  { view with panels := (view.panels.close key).2 }

/-- Opens the rejection panel of an entry the viewer may reject. -/
def openRejectionPanel (view : View) (index : UInt32) (placeholder : String) :
    Except DomainError View := do
  let _ ← view.actionable index .reject
  return { view with panels := (view.panels.insert ⟨.entry index, .rejection, placeholder⟩).2 }

/-- Closes the panel of an entry, which has to be open. -/
def cancelRejectionPanel (view : View) (index : UInt32) : Except DomainError View := do
  let _ ← view.panels.require (.entry index)
  return view.closePanel (.entry index)

/-- Starts an edit from the present text; refused while a proposed edit awaits review. -/
def openEditPanel (view : View) (target : EditTarget) (placeholder : String) :
    Except DomainError View :=
  if view.editOffered then
    .ok { view with
      display := .editing view.text
      panels := (view.panels.insert ⟨.text, .changeAndComment target, placeholder⟩).2 }
  else
    .error (.conflict "An edit of this annotation is already awaiting review")

/-- Drops the edit and its panel. -/
def cancelEditPanel (view : View) : View :=
  { view.closePanel .text with display := .viewing }

/-! ## Confirmed steps -/

/-- An edit was saved as an update. -/
def applyEditSubmitted (view : View) (update : Update) : UInt32 × View :=
  let (index, thread) := view.thread.append update
  (index,
    { view.closePanel .text with
      display := .viewing
      editOffered := false
      thread })

/-- The reply that rejects an entry was saved as an update. -/
def applyRejectionReply (view : View) (index : UInt32) (reply : Update) :
    Except DomainError (UInt32 × View) := do
  let thread ← view.thread.markRejected index
  let (newIndex, thread) := thread.append reply
  return (newIndex, { view.closePanel (.entry index) with display := .viewing, thread })

/-- An entry was accepted, and the backend reported the new text. -/
def applyAccept (view : View) (index : UInt32) (updatedText : String)
    (oldText : Option String) : Except DomainError View := do
  let thread ← view.thread.markAccepted index
  return { view.closePanel (.entry index) with
    text := updatedText
    previousText := some (oldText.getD view.text)
    editOffered := true
    thread }

/-- An entry was taken back by its proposer. -/
def applyRetract (view : View) (index : UInt32) : Except DomainError (Entry × View) := do
  let (removed, thread) ← view.thread.removeRetracted index
  return (removed, { view.closePanel (.entry index) with editOffered := true, thread })

end View

end AnnotationReview
