import AnnotationReview.Proofs.Confirmation
import AnnotationReview.Proofs.Panel
import AnnotationReview.Proofs.Refresh
import AnnotationReview.Proofs.Submission

/-!
# How a saved submission is reported

Once a submission is saved its entry is appended, and then its status is looked up.  What becomes of
that look-up decides how the whole is reported (`Reported`): a look-up that fails puts up its notice
in place of the one that was there, and one that breaks down makes an error of the operation although
the entry stays.  An unknown word is not reported at all.  A reply is sent together with the call to
close the update it answers; if that call breaks down, a reply that was saved is not even appended
(`Loses`).

Two things that a viewer might count on are lost in this way.  A rejection whose reply was saved
while the update could not be closed has a notice of its own, and a failing look-up takes it down
(`half_rejection_reported`); and a submission that was saved may be told as a failure
(`saved_submission_reported`).
-/

namespace AnnotationReview

open Backend (Outcome Saved Submission)
open Backend.Dialogue (Exchange Path)

namespace Review

/-! ## What was saved -/

/-- A command has sent a submission that was saved: the exchanges before it, what the command tells
if it succeeds, and the view with the entry appended. -/
inductive Saves (now : View) :
    Command → List Exchange → Submission → Saved → CommandResult → View → Prop where
  | edit {edited comment : String} {submission : Submission}
      (hedit : now.proposedEdit edited comment = .ok (some submission)) (saved : Saved) :
      Saves now (.submitEdit edited comment) [] submission saved
        (.edit (.submitted now.thread.nextIndex))
        (now.applyEditSubmitted (.ofSaved saved submission .judger)).2
  | reply {index : UInt32} {comment target : String} {submission : Submission}
      (hreply : now.rejectionReply index comment = .ok (target, submission))
      (rejected : Except Backend.Error Unit) (saved : Saved) :
      Saves now (.submitRejection index comment)
        [⟨⟨now.viewer, .reject target⟩, .ofExcept rejected⟩] submission saved
        (.reply now.thread.nextIndex)
        ((now.replied index (.ofSaved saved submission .author)).reportingUnrejected target
          rejected)

/-- A command has sent a submission that was saved, and does not live to hear of it: the call to
close the update it answers, which was put together with it, has broken down.  The whole command is
reported as a failure, and nothing is appended. -/
inductive Loses (now : View) : Command → List Exchange → Submission → Saved →
    Except Error CommandResult → View → Prop where
  | reply {index : UInt32} {comment target : String} {submission : Submission} {saved : Saved}
      (hreply : now.rejectionReply index comment = .ok (target, submission)) (message : String) :
      Loses now (.submitRejection index comment)
        [⟨⟨now.viewer, .reject target⟩, .panicked message⟩,
          ⟨⟨now.viewer, .submit submission⟩, .answered saved⟩]
        submission saved (.error (abortion message)) (now.reporting (abortion message))

/-- How a command that has saved a submission ends, by the outcome of the look-up that follows. -/
structure Reported (stored : View) (index : UInt32) (success : CommandResult)
    (outcome : Outcome String) (result : Except Error CommandResult) (next : View) : Prop where
  /-- The status is noted, if the word is one, and nothing is reported. -/
  answered : ∀ word, outcome = .answered word →
    result = .ok success ∧ next = stored.noting index (Status.ofName? word)
  /-- The failure is reported on the view alone. -/
  failed : ∀ error, outcome = .failed error →
    result = .ok success ∧ next = stored.reporting (.backend error)
  /-- The whole command is reported as a failure. -/
  brokeDown : ∀ message, outcome = .panicked message →
    result = .error (abortion message) ∧ next = stored.reporting (abortion message)

variable {now stored after next : View} {command : Command} {index : UInt32} {entry : Entry}
  {exchanges front lookUps : List Exchange} {submission : Submission} {saved : Saved}
  {success : CommandResult} {result : Except Error CommandResult}
  {ending : Ending (Option Status)}

/-- The entry comes last, under the next index, and has no controls yet. -/
lemma Saves.appended (hsaves : Saves now command front submission saved success stored) :
    ∃ earlier entry, stored.thread.entries = earlier ++ [entry] ∧
      entry.index = now.thread.nextIndex ∧
      (∃ origin, entry.update = .ofSaved saved submission origin) ∧ entry.IsInert := by
  have hunknown : ∀ index update, (⟨index, update, none, false⟩ : Entry).IsInert :=
    fun _ _ => Entry.isInert_iff.mpr rfl
  cases hsaves with
  | edit hedit saved =>
    exact ⟨now.thread.entries, _, rfl, rfl, ⟨.judger, rfl⟩, hunknown _ _⟩
  | reply hreply rejected saved =>
    rw [View.thread_reportingUnrejected]
    exact ⟨_, _, rfl, rfl, ⟨.author, rfl⟩, hunknown _ _⟩

/-- A look-up after a submission ends in one of the three ways. -/
lemma LookUp.reported
    (hlookUp : LookUp stored index entry lookUps ending after) (success : CommandResult) :
    ∃ outcome : Outcome String,
      lookUps = [⟨⟨stored.viewer, .statusOf entry.update.id⟩, outcome⟩] ∧
      Reported stored index success outcome (ending.attempted success).result
        (ending.settled after) := by
  cases hlookUp with
  | failed error =>
    refine ⟨.failed error, rfl, by rintro _ ⟨⟩, ?_, by rintro _ ⟨⟩⟩
    rintro _ ⟨⟩
    exact ⟨rfl, rfl⟩
  | brokeDown message =>
    refine ⟨.panicked message, rfl, by rintro _ ⟨⟩, by rintro _ ⟨⟩, ?_⟩
    rintro _ ⟨⟩
    exact ⟨rfl, rfl⟩
  | @unknown word hword =>
    refine ⟨.answered word, rfl, ?_, by rintro _ ⟨⟩, by rintro _ ⟨⟩⟩
    rintro _ ⟨⟩
    rw [hword]
    exact ⟨rfl, rfl⟩
  | recorded status =>
    refine ⟨.answered status.name, rfl, ?_, by rintro _ ⟨⟩, by rintro _ ⟨⟩⟩
    rintro _ ⟨⟩
    rw [Status.ofName?_name]
    exact ⟨rfl, rfl⟩

lemma LookUp.not_mem_of_submit (hlookUp : LookUp stored index entry lookUps ending after)
    {viewer : String} {outcome : Outcome Saved} :
    ⟨⟨viewer, .submit submission⟩, outcome⟩ ∉ lookUps := by
  obtain ⟨_, rfl⟩ := hlookUp.exists_exchanges
  intro hmem
  cases List.mem_singleton.mp hmem

/-- A submission that was saved is lost, or it is the last but one thing that is heard of the
backend. -/
lemma lost_or_exists_reported (hcourse : Course now command exchanges result next)
    {viewer : String}
    (hsaved : ⟨⟨viewer, .submit submission⟩, .answered saved⟩ ∈ exchanges) :
    Loses now command exchanges submission saved result next ∨
    ∃ front success stored updateId, ∃ outcome : Outcome String,
      Saves now command front submission saved success stored ∧
      exchanges = front ++ [⟨⟨now.viewer, .submit submission⟩, .answered saved⟩,
        ⟨⟨now.viewer, .statusOf updateId⟩, outcome⟩] ∧
      Reported stored now.thread.nextIndex success outcome result next := by
  cases hcourse with
  | editSaved hedit hget hlookUp =>
    rcases List.mem_cons.mp hsaved with hfirst | hlater
    · cases hfirst
      obtain ⟨outcome, rfl, hreported⟩ :=
        hlookUp.reported (.edit (.submitted now.thread.nextIndex))
      exact .inr ⟨[], _, _, _, outcome, .edit hedit saved, rfl, hreported⟩
    · exact absurd hlater hlookUp.not_mem_of_submit
  | rejectionBrokeDown hreply message =>
    rcases List.mem_cons.mp hsaved with hfirst | hlater
    · cases hfirst
    · cases List.mem_singleton.mp hlater
      exact .inl (.reply hreply message)
  | rejectionSaved hreply rejected hget hlookUp =>
    rcases List.mem_cons.mp hsaved with hfirst | hlater
    · cases hfirst
    rcases List.mem_cons.mp hlater with hsecond | hlater
    · cases hsecond
      obtain ⟨outcome, rfl, hreported⟩ := hlookUp.reported (.reply now.thread.nextIndex)
      rw [View.viewer_reportingUnrejected]
      exact .inr ⟨_, _, _, _, outcome, .reply hreply rejected saved, rfl, hreported⟩
    · exact absurd hlater hlookUp.not_mem_of_submit
  | rejectionFailed hreply rejected hfailure =>
    rcases List.mem_cons.mp hsaved with hfirst | hlater
    · cases hfirst
    · cases List.mem_singleton.mp hlater
      cases hfailure
  | editFailed hedit hfailure =>
    cases List.mem_singleton.mp hsaved
    cases hfailure
  | refreshed hget hlookUp => exact absurd hsaved hlookUp.not_mem_of_submit
  | acceptFailed => cases List.mem_singleton.mp hsaved
  | accepted => cases List.mem_singleton.mp hsaved
  | retractFailed => cases List.mem_singleton.mp hsaved
  | retracted => cases List.mem_singleton.mp hsaved
  | _ => cases hsaved

/-! ## Half a rejection -/

/-- The notice that a reply was saved while the update it answers was not closed. -/
def unrejectedNotice (target : String) (error : Backend.Error) : Notice where
  kind := (Error.backend error).noticeKind
  message := "The reply was saved but update " ++ target ++ " was not marked rejected: " ++
    (Error.backend error).describe

/-- A rejection that succeeds has had its reply saved, and is reported by the look-up after it. -/
lemma exists_reported_of_rejection {comment target : String}
    (hreply : now.rejectionReply index comment = .ok (target, submission)) {value : CommandResult}
    (hcourse : Course now (.submitRejection index comment) exchanges (.ok value) next) :
    ∃ rejected saved updateId, ∃ outcome : Outcome String,
      exchanges = [⟨⟨now.viewer, .reject target⟩, .ofExcept rejected⟩,
        ⟨⟨now.viewer, .submit submission⟩, .answered saved⟩,
        ⟨⟨now.viewer, .statusOf updateId⟩, outcome⟩] ∧
      Reported ((now.replied index (.ofSaved saved submission .author)).reportingUnrejected target
        rejected) now.thread.nextIndex (.reply now.thread.nextIndex) outcome (.ok value) next := by
  generalize hresult : (Except.ok value : Except Error CommandResult) = result at hcourse
  cases hcourse with
  | refused => cases hresult
  | rejectionBrokeDown => cases hresult
  | rejectionFailed => cases hresult
  | rejectionSaved hsent rejected hget hlookUp =>
    cases hreply.symm.trans hsent
    obtain ⟨outcome, rfl, hreported⟩ := hlookUp.reported (.reply now.thread.nextIndex)
    rw [View.viewer_reportingUnrejected]
    exact ⟨rejected, _, _, outcome, rfl, hresult ▸ hreported⟩

/-- **Of two failures the later one is reported.**  Where a rejection passes its rules and succeeds
although the update could not be closed, its reply was saved and its look-up did not break down.  If
the look-up was answered, whatever the word, the notice says that the update was not closed; if it
failed, the notice is that of the look-up. -/
theorem half_rejection_reported {comment target : String}
    (hreply : now.rejectionReply index comment = .ok (target, submission)) {value : CommandResult}
    (hpath : Path ((Command.submitRejection index comment).operation now) exchanges
      (.ok value, next)) {viewer : String} {error : Backend.Error}
    (hunclosed : ⟨⟨viewer, .reject target⟩, .failed error⟩ ∈ exchanges) :
    ∃ saved updateId, ∃ outcome : Outcome String,
      exchanges = [⟨⟨now.viewer, .reject target⟩, .failed error⟩,
        ⟨⟨now.viewer, .submit submission⟩, .answered saved⟩,
        ⟨⟨now.viewer, .statusOf updateId⟩, outcome⟩] ∧
      ((∃ word, outcome = .answered word) ∧
          next.notice = some (unrejectedNotice target error) ∨
        ∃ later, outcome = .failed later ∧ next.notice = some (Error.backend later).notice) := by
  obtain ⟨rejected, saved, updateId, outcome, rfl, hreported⟩ :=
    exists_reported_of_rejection hreply (course_of_path hpath)
  -- of the three calls only the first one is a rejection
  obtain rfl : rejected = .error error := by
    rcases List.mem_cons.mp hunclosed with hfirst | hlater
    · cases rejected <;> cases hfirst
      rfl
    · rcases List.mem_cons.mp hlater with hsecond | hthird
      · cases hsecond
      · cases List.mem_singleton.mp hthird
  refine ⟨saved, updateId, outcome, rfl, ?_⟩
  cases outcome with
  | answered word =>
    obtain ⟨-, rfl⟩ := hreported.answered word rfl
    exact .inl ⟨⟨word, rfl⟩, rfl⟩
  | failed later =>
    obtain ⟨-, rfl⟩ := hreported.failed later rfl
    exact .inr ⟨later, rfl, rfl⟩
  | panicked message =>
    obtain ⟨hresult, -⟩ := hreported.brokeDown message rfl
    cases hresult

/-- The backend refuses to close the update, and the status of the reply is found. -/
theorem half_rejection_reported_found : ∃ next,
    Path ((Command.submitRejection 0 "hidden files are noise").operation rejecting) halfRejection
      (.ok (.reply 1), next) ∧
    next.notice = some ⟨.server,
      "The reply was saved but update U1 was not marked rejected: Backend API error (500): boom"⟩ := by
  have hsaved : ∃ next, Course rejecting (.submitRejection 0 "hidden files are noise") halfRejection
      (.ok (.reply 1)) next :=
    ⟨_, .rejectionSaved rejectionReply_rejecting (.error (.refused 500 "boom")) rfl
      (.recorded .opened)⟩
  obtain ⟨next, hcourse⟩ := hsaved
  have hpath := path_of_course hcourse
  obtain ⟨saved, updateId, outcome, hexchanges, ⟨-, hnotice⟩ | ⟨later, rfl, -⟩⟩ :=
    half_rejection_reported rejectionReply_rejecting hpath List.mem_cons_self
  · exact ⟨next, hpath, hnotice⟩
  · simp [halfRejection] at hexchanges

/-- The backend refuses to close the update and then fails to tell the status of the reply: nothing
on the view says that the update is still to be closed. -/
theorem failed_look_up_hides_half_rejection : Reachable rejecting ∧ ∃ next,
    Path ((Command.submitRejection 0 "hidden files are noise").operation rejecting)
      [⟨⟨"author", .reject "U1"⟩, .failed (.refused 500 "boom")⟩,
        ⟨⟨"author", .submit ⟨"A1", "list files", "hidden files are noise", some "U1"⟩⟩,
          .answered ⟨"U2", "author", "t2"⟩⟩,
        ⟨⟨"author", .statusOf "U2"⟩, .failed (.refused 503 "later")⟩]
      (.ok (.reply 1), next) ∧
    next.notice = some ⟨.server, "Backend API error (503): later"⟩ ∧
    next.notice ≠ some (unrejectedNotice "U1" (.refused 500 "boom")) := by
  refine ⟨⟨_, _, _, _, reviewing, _, mounts_reviewing, .cons path_rejecting (.nil rejecting)⟩, _,
    path_of_course (.rejectionSaved rejectionReply_rejecting (.error (.refused 500 "boom")) rfl
      (.failed (.refused 503 "later"))), rfl, ?_⟩
  decide

/-! ## What was saved is told -/

/-- Of the calls of a command that lives to hear of its submission only the look-up can break
down. -/
lemma Saves.kept_iff (hsaves : Saves now command front submission saved success stored)
    {viewer updateId : String} {outcome : Outcome String} :
    (∀ exchange ∈ front ++ [⟨⟨viewer, .submit submission⟩, .answered saved⟩,
      ⟨⟨viewer, .statusOf updateId⟩, outcome⟩], ¬BrokeDown exchange) ↔
        ∀ message, outcome ≠ .panicked message := by
  have hfront : ∀ exchange ∈ front, ¬BrokeDown exchange := by
    cases hsaves with
    | edit => exact List.forall_mem_nil _
    | reply hreply rejected =>
      refine List.forall_mem_singleton.mpr ?_
      rintro ⟨message, hbroken⟩
      cases rejected <;> cases hbroken
  have hanswered : ¬BrokeDown ⟨⟨viewer, .submit submission⟩, .answered saved⟩ := by
    rintro ⟨message, ⟨⟩⟩
  have hlast : ¬BrokeDown ⟨⟨viewer, .statusOf updateId⟩, outcome⟩ ↔
      ∀ message, outcome ≠ .panicked message := not_exists
  rw [List.forall_mem_append, List.forall_mem_cons, List.forall_mem_singleton, hlast]
  exact ⟨fun hkept => hkept.2.2, fun hkept => ⟨hfront, hanswered, hkept⟩⟩

/-- A command that has heard of its submission succeeds, with what it has to tell, unless the look-up
breaks down. -/
lemma Reported.succeeds_iff {outcome : Outcome String}
    (hreported : Reported stored index success outcome result next) :
    ((∃ value, result = .ok value) ↔ ∀ message, outcome ≠ .panicked message) ∧
    (result = .ok success ↔ ∀ message, outcome ≠ .panicked message) := by
  cases outcome with
  | answered word =>
    obtain ⟨rfl, -⟩ := hreported.answered word rfl
    simp
  | failed error =>
    obtain ⟨rfl, -⟩ := hreported.failed error rfl
    simp
  | panicked message =>
    obtain ⟨rfl, -⟩ := hreported.brokeDown message rfl
    simp

/-- A look-up that tells no status leaves the thread as it is. -/
lemma Reported.thread_of_untold {outcome : Outcome String}
    (hreported : Reported stored index success outcome result next)
    (huntold : ∀ status : Status, outcome ≠ .answered status.name) :
    next.thread = stored.thread := by
  cases outcome with
  | answered word =>
    have hword : Status.ofName? word = none := by
      refine Option.eq_none_iff_forall_ne_some.mpr fun status hstatus => huntold status ?_
      rw [Status.ofName?_eq_some_iff.mp hstatus]
    rw [(hreported.answered word rfl).2, hword]
    rfl
  | failed error => rw [(hreported.failed error rfl).2, View.reporting]
  | panicked message => rw [(hreported.brokeDown message rfl).2, View.reporting]

/-- **A saved submission is reported as a success unless a call breaks down.**  Whatever the view
and the command are: once a submission has been saved, the command succeeds if and only if none of
its calls has broken down.  There are two such calls.  One is the call to close the update that a
reply answers: with it the reply is lost, and nothing is appended.  The other is the look-up that
follows.  Before that the entry has come last in the thread, under the index that is told, and has no
controls; and that is how it stays unless the look-up tells a status. -/
theorem saved_submission_reported {viewer : String}
    (hpath : Path (command.operation now) exchanges (result, next))
    (hsaved : ⟨⟨viewer, .submit submission⟩, .answered saved⟩ ∈ exchanges) :
    ((∃ value, result = .ok value) ↔ ∀ exchange ∈ exchanges, ¬BrokeDown exchange) ∧
    (Loses now command exchanges submission saved result next ∨
    ∃ front success stored updateId, ∃ outcome : Outcome String,
      Saves now command front submission saved success stored ∧
      exchanges = front ++ [⟨⟨now.viewer, .submit submission⟩, .answered saved⟩,
        ⟨⟨now.viewer, .statusOf updateId⟩, outcome⟩] ∧
      (∃ earlier entry, stored.thread.entries = earlier ++ [entry] ∧
        entry.index = now.thread.nextIndex ∧
        (∃ origin, entry.update = .ofSaved saved submission origin) ∧ entry.IsInert) ∧
      Reported stored now.thread.nextIndex success outcome result next ∧
      (result = .ok success ↔ ∀ message, outcome ≠ .panicked message) ∧
      ((∀ status : Status, outcome ≠ .answered status.name) → next.thread = stored.thread)) := by
  obtain hloses | ⟨front, success, stored, updateId, outcome, hsaves, rfl, hreported⟩ :=
    lost_or_exists_reported (course_of_path hpath) hsaved
  · refine ⟨?_, .inl hloses⟩
    cases hloses with
    | reply hreply message =>
      refine iff_of_false (by simp) fun hkept => ?_
      exact hkept _ List.mem_cons_self ⟨message, rfl⟩
  · rw [hsaves.kept_iff]
    obtain ⟨hsucceeds, htold⟩ := hreported.succeeds_iff
    exact ⟨hsucceeds, .inr ⟨front, success, stored, updateId, outcome, hsaves, rfl, hsaves.appended,
      hreported, htold, hreported.thread_of_untold⟩⟩

/-- An edit is saved and its status found; and a reply is saved while the call to close the update
breaks down. -/
theorem saved_submission_reported_proposed :
    (∃ stored,
      Saves editing (.submitEdit "list all files" "hidden ones too") []
        ⟨"A1", "list all files", "hidden ones too", none⟩ ⟨"U1", "author", "t1"⟩
        (.edit (.submitted 0)) stored ∧
      Reported stored 0 (.edit (.submitted 0)) (.answered "open") (.ok (.edit (.submitted 0)))
        proposed) ∧
    Loses rejecting (.submitRejection 0 "hidden files are noise")
      [⟨⟨"author", .reject "U1"⟩, .panicked "down"⟩,
        ⟨⟨"author", .submit ⟨"A1", "list files", "hidden files are noise", some "U1"⟩⟩,
          .answered ⟨"U2", "author", "t2"⟩⟩]
      ⟨"A1", "list files", "hidden files are noise", some "U1"⟩ ⟨"U2", "author", "t2"⟩
      (.error (abortion "down")) (rejecting.reporting (abortion "down")) := by
  constructor
  · obtain ⟨-, hloses | ⟨front, success, stored, updateId, outcome, hsaves, hexchanges, -, hreported,
      -, -⟩⟩ := saved_submission_reported path_proposed List.mem_cons_self
    · cases hloses
    cases hsaves with
    | edit hedit =>
      obtain ⟨-, -, rfl⟩ : editing.viewer = "author" ∧
          (editing.viewer = "author" ∧ updateId = "U1") ∧ outcome = .answered "open" := by
        simpa using hexchanges.symm
      exact ⟨_, .edit hedit _, hreported⟩
  · have hanswered : ∀ other : String,
        Outcome.answered (Saved.mk "U2" "author" "t2") = .panicked other → other = "down" := by
      rintro _ ⟨⟩
    have hlost := path_of_course (.rejectionBrokeDown rejectionReply_rejecting "down" hanswered)
    obtain ⟨-, hloses | ⟨front, success, stored, updateId, outcome, hsaves, hexchanges, -⟩⟩ :=
      saved_submission_reported hlost (List.mem_cons_of_mem _ List.mem_cons_self)
    · exact hloses
    · -- no status was looked up
      cases hsaves with
      | reply => cases (List.cons.inj (List.cons.inj hexchanges).2).2

/-- The look-up of an edit that was saved breaks down: the edit is told as a failure, and yet it is
in the thread. -/
theorem saved_edit_told_as_failure : Reachable editing ∧ ∃ next,
    Path ((Command.submitEdit "list all files" "hidden ones too").operation editing)
      [⟨⟨"author", .submit ⟨"A1", "list all files", "hidden ones too", none⟩⟩,
          .answered ⟨"U1", "author", "t1"⟩⟩,
        ⟨⟨"author", .statusOf "U1"⟩, .panicked "down"⟩]
      (.error (abortion "down"), next) ∧
    next.thread = ⟨[⟨0, ⟨"U1", "author", "t1", "list all files", "hidden ones too", .judger⟩,
      none, false⟩], 1⟩ :=
  ⟨⟨_, _, _, _, _, _, mounts_without_updates "A1" "author" "list files",
      .cons path_editing (.nil editing)⟩, _,
    path_of_course (.editSaved proposedEdit_editing rfl (.brokeDown "down")), rfl⟩

end Review

end AnnotationReview
