import AnnotationReview.Proofs.Course

/-!
# A failed operation leaves no trace but a notice

An operation that fails has not changed the view, whichever of its calls failed and wherever it
stopped; the viewer finds the notice of the failure and everything else as it was
(`failed_operation_keeps_view`).  The one exception is stated as such: once a submission is saved
its entry stays in the thread, also when the look-up of its status breaks down and takes the
operation with it (`LookUpLost`).
-/

namespace AnnotationReview.Review

open Backend (Outcome Saved)
open Backend.Dialogue (Exchange Path)

/-- A submission was saved, and the look-up of its status that followed broke down. -/
def LookUpLost (exchanges : List Exchange) : Prop :=
  ∃ front viewer submission saved updateId message,
    exchanges = front ++ [⟨⟨viewer, .submit submission⟩, .answered saved⟩,
      ⟨⟨viewer, .statusOf updateId⟩, .panicked message⟩]

variable {now after : View} {index : UInt32} {entry : Entry} {exchanges : List Exchange}
  {ending : Ending (Option Status)} {error : Error}

namespace LookUp

/-- A look-up that fails leaves the view alone. -/
lemma settled_of_error {β : Type} {f : Option Status → β}
    (hlookUp : LookUp now index entry exchanges ending after)
    (hresult : ending.result.map f = .error error) :
    ending.settled after = now.reporting error := by
  cases hlookUp with
  | failed failure => cases hresult; rfl
  | brokeDown message => cases hresult; rfl
  | unknown => cases hresult
  | recorded => cases hresult

/-- An attempted look-up fails only where the call breaks down. -/
lemma exchanges_of_attempted_error {β : Type} {value : β}
    (hlookUp : LookUp now index entry exchanges ending after)
    (hresult : (ending.attempted value).result = .error error) :
    ∃ message, exchanges =
      [⟨⟨now.viewer, .statusOf entry.update.id⟩, .panicked message⟩] := by
  cases hlookUp with
  | brokeDown message => exact ⟨message, rfl⟩
  | failed => cases hresult
  | unknown => cases hresult
  | recorded => cases hresult

end LookUp

/-- **Failed operations are atomic.**  Whatever the view, the command with its arguments and the
outcomes of its calls are: an operation that fails leaves every field of the view as it was, except
that the notice is the one of the failure.  Only the look-up that follows a saved submission must
not have broken down. -/
theorem failed_operation_keeps_view {view next : View} {command : Command}
    (hpath : Path (command.operation view) exchanges (.error error, next))
    (hkept : ¬LookUpLost exchanges) :
    next = { view with notice := some ⟨error.noticeKind, error.noticeMessage⟩ } := by
  change next = view.reporting error
  generalize hresult : (Except.error error : Except Error CommandResult) = result at hpath
  cases course_of_path hpath with
  | refused => cases hresult; rfl
  | refreshed hget hlookUp => exact hlookUp.settled_of_error hresult.symm
  | editFailed => cases hresult; rfl
  | rejectionBrokeDown => cases hresult; rfl
  | rejectionFailed => cases hresult; rfl
  | acceptFailed => cases hresult; rfl
  | retractFailed => cases hresult; rfl
  | editSaved hedit hget hlookUp =>
    obtain ⟨message, rfl⟩ := hlookUp.exchanges_of_attempted_error hresult.symm
    exact absurd ⟨[], _, _, _, _, message, rfl⟩ hkept
  | rejectionSaved hreply rejected hget hlookUp =>
    obtain ⟨message, rfl⟩ := hlookUp.exchanges_of_attempted_error hresult.symm
    rw [View.viewer_reportingUnrejected] at hkept
    exact absurd ⟨[_], _, _, _, _, message, rfl⟩ hkept
  | _ => cases hresult

/-- A view with one open update, whose rejection is being written. -/
def rejecting : View :=
  { View.fresh "A1" "author" "list files" with
    thread := ⟨[⟨0, ⟨"U1", "judge", "t1", "list all files", "lists hidden files too", .judger⟩,
      some .opened, false⟩], 1⟩
    panels := ⟨[⟨.entry 0, .rejection, "why?"⟩]⟩ }

lemma rejectionReply_rejecting : rejecting.rejectionReply 0 "hidden files are noise" =
    .ok ("U1", ⟨"A1", "list files", "hidden files are noise", some "U1"⟩) := by
  rfl

/-- The update is closed, but the reply does not come back: the panel and the entry stay as they
are. -/
theorem failed_operation_keeps_rejecting : ∃ next,
    Path ((Command.submitRejection 0 "hidden files are noise").operation rejecting)
      [⟨⟨"author", .reject "U1"⟩, .answered ()⟩,
        ⟨⟨"author", .submit ⟨"A1", "list files", "hidden files are noise", some "U1"⟩⟩,
          .failed .undecodable⟩]
      (.error (.backend .undecodable), next) ∧
    next = { rejecting with
      notice := some ⟨.transport, "HTTP request failed: error decoding response body"⟩ } := by
  have hfailure : (Outcome.failed .undecodable : Outcome Saved).failure? =
      some (.backend .undecodable) := rfl
  have hpath := path_of_course (.rejectionFailed rejectionReply_rejecting (.ok ()) hfailure)
  refine ⟨_, hpath, failed_operation_keeps_view hpath ?_⟩
  rintro ⟨front, viewer, submission, saved, updateId, message, hexchanges⟩
  have hlast := congrArg List.getLast? hexchanges
  simp at hlast

end AnnotationReview.Review
