import AnnotationReview.Proofs.Procedure
import AnnotationReview.Proofs.Rules
import AnnotationReview.Proofs.Thread
import AnnotationReview.Proofs.Together

/-!
# The courses a command can take

A command on a view either stops at a rule, before anything is sent, or puts its calls and takes
the confirmed step, and a call that is not answered puts an end to it.  `Course` lists every way
this can go: the exchanges, what the caller is told, and the view that is left.  There is no other
way (`course_of_path`) and each of them can be taken (`path_of_course`), so that whatever holds of
all courses holds of all runs, and no later proof has to look into an operation again.

The look-up of a status is a part of three operations and has a relation of its own, `LookUp`.
-/

namespace AnnotationReview

/-- The view after an entry was accepted. -/
def View.accepted (view : View) (index : UInt32) (answer : Backend.Accepted) : View :=
  { view.closePanel (.entry index) with
    text := answer.newText
    previousText := some (answer.oldText.getD view.text)
    editOffered := true
    thread := view.thread.modify index fun entry =>
      { entry with status := some .accepted, hidden := true } }

/-- The view after an entry was taken back. -/
def View.retracted (view : View) (index : UInt32) : View :=
  { view.closePanel (.entry index) with
    editOffered := true
    thread := view.thread.erase index }

/-- The view after an entry was rejected and the reply saved. -/
def View.replied (view : View) (index : UInt32) (reply : Update) : View :=
  { view.closePanel (.entry index) with
    display := .viewing
    thread := ((view.thread.modify index fun entry =>
      { entry with status := some .rejected }).append reply).2 }

/-- The view with a notice if the update that a saved reply answers could not be closed. -/
def View.reportingUnrejected (view : View) (target : String) :
    Except Backend.Error Unit → View
  | .ok () => view
  | .error error => view.raise (Review.Error.backend error).noticeKind <|
      "The reply was saved but update " ++ target ++ " was not marked rejected: " ++
        (Review.Error.backend error).describe

@[simp] lemma View.thread_reportingUnrejected (view : View) (target : String)
    (rejected : Except Backend.Error Unit) :
    (view.reportingUnrejected target rejected).thread = view.thread := by
  cases rejected <;> rfl

@[simp] lemma View.viewer_reportingUnrejected (view : View) (target : String)
    (rejected : Except Backend.Error Unit) :
    (view.reportingUnrejected target rejected).viewer = view.viewer := by
  cases rejected <;> rfl

/-- The view with a status recorded for an entry. -/
def View.recording (view : View) (index : UInt32) (status : Status) : View :=
  { view with thread := view.thread.modify index fun entry => { entry with status := some status } }

end AnnotationReview

namespace AnnotationReview.Review

open Backend (Accepted Call Dialogue Outcome Saved Submission)
open Backend.Dialogue (Exchange Path Together path_askAll_of_done together_pair_iff)

/-! ## Status look-ups -/

/-- The ways the look-up of an entry's status can go. -/
inductive LookUp (now : View) (index : UInt32) (entry : Entry) :
    List Exchange → Ending (Option Status) → View → Prop where
  | failed (error : Backend.Error) :
      LookUp now index entry [⟨⟨now.viewer, .statusOf entry.update.id⟩, .failed error⟩]
        (.failed (.backend error)) now
  | brokeDown (message : String) :
      LookUp now index entry [⟨⟨now.viewer, .statusOf entry.update.id⟩, .panicked message⟩]
        (.aborted message) now
  /-- The backend's word is no status. -/
  | unknown {word : String} (hword : Status.ofName? word = none) :
      LookUp now index entry [⟨⟨now.viewer, .statusOf entry.update.id⟩, .answered word⟩]
        (.returned none) now
  | recorded (status : Status) :
      LookUp now index entry [⟨⟨now.viewer, .statusOf entry.update.id⟩, .answered status.name⟩]
        (.returned (some status)) (now.recording index status)

/-- Without an entry nothing is looked up. -/
lemma lookUpStatus_of_get_error {now : View} {index : UInt32} {error : DomainError}
    (hget : now.thread.get index = .error error) :
    lookUpStatus index now = .done (.failed (.domain error), now) := by
  rw [lookUpStatus, Procedure.view_bind, hget, Procedure.check_error_bind]

/-- A word that is no status changes nothing. -/
lemma recordStatus_of_unknown {word : String} (hword : Status.ofName? word = none)
    (index : UInt32) (now : View) : recordStatus index word now = .done (.returned none, now) := by
  rw [recordStatus, hword]
  rfl

lemma recordStatus_of_name {now : View} {index : UInt32} {entry : Entry}
    (hget : now.thread.get index = .ok entry) (status : Status) :
    recordStatus index status.name now =
      .done (.returned (some status), now.recording index status) := by
  rw [recordStatus, Status.ofName?_name]
  show (Procedure.view >>= _) now = _
  rw [Procedure.view_bind, Thread.setStatus_of_get hget]
  rfl

/-- Recording a word notes the status it stands for, if there is one. -/
lemma recordStatus_eq {now : View} {index : UInt32} {entry : Entry}
    (hget : now.thread.get index = .ok entry) (word : String) :
    recordStatus index word now = .done (.returned (Status.ofName? word),
      { now with thread := now.thread.noting index (Status.ofName? word) }) := by
  cases hword : Status.ofName? word with
  | none => exact recordStatus_of_unknown hword index now
  | some status =>
    obtain rfl := Status.ofName?_eq_some_iff.mp hword
    exact recordStatus_of_name hget status

/-- The paths of a look-up are the ways it can go. -/
lemma lookUp_iff {now after : View} {index : UInt32} {entry : Entry}
    {exchanges : List Exchange} {ending : Ending (Option Status)}
    (hget : now.thread.get index = .ok entry) :
    Path (lookUpStatus index now) exchanges (ending, after) ↔
      LookUp now index entry exchanges ending after := by
  rw [lookUpStatus, Procedure.view_bind, hget, Procedure.check_ok_bind, Procedure.require_bind]
  constructor
  · rintro (_ | ⟨outcome, rest⟩)
    cases outcome with
    | failed error => cases rest; exact .failed error
    | panicked message => cases rest; exact .brokeDown message
    | answered word =>
      change Path (recordStatus index word now) _ _ at rest
      cases hword : Status.ofName? word with
      | none =>
        rw [recordStatus_of_unknown hword] at rest
        cases rest
        exact .unknown hword
      | some status =>
        obtain rfl := Status.ofName?_eq_some_iff.mp hword
        rw [recordStatus_of_name hget] at rest
        cases rest
        exact .recorded status
  · intro hlookUp
    cases hlookUp with
    | failed error => exact .ask _ (.done _)
    | brokeDown message => exact .ask _ (.done _)
    | @unknown word hword =>
      refine .ask _ ?_
      change Path (recordStatus index word now) _ _
      rw [recordStatus_of_unknown hword]
      exact .done _
    | recorded status =>
      refine .ask _ ?_
      change Path (recordStatus index status.name now) _ _
      rw [recordStatus_of_name hget]
      exact .done _

/-- However a look-up goes, it leaves a notice and the status that was answered, if any. -/
lemma LookUp.exists_settled {now after : View} {index : UInt32} {entry : Entry}
    {exchanges : List Exchange} {ending : Ending (Option Status)}
    (hlookUp : LookUp now index entry exchanges ending after) :
    ∃ status? notice,
      ending.settled after = { now with thread := now.thread.noting index status?, notice } ∧
      ∀ status ∈ status?, exchanges =
        [⟨⟨now.viewer, .statusOf entry.update.id⟩, .answered status.name⟩] := by
  cases hlookUp with
  | failed error => exact ⟨none, some (Error.backend error).notice, rfl, by simp⟩
  | brokeDown message => exact ⟨none, some (abortion message).notice, rfl, by simp⟩
  | unknown => exact ⟨none, now.notice, rfl, by simp⟩
  | recorded status => exact ⟨some status, now.notice, rfl, by simp⟩

/-- A look-up asks for one status. -/
lemma LookUp.exists_exchanges {now after : View} {index : UInt32} {entry : Entry}
    {exchanges : List Exchange} {ending : Ending (Option Status)}
    (hlookUp : LookUp now index entry exchanges ending after) :
    ∃ outcome, exchanges = [⟨⟨now.viewer, .statusOf entry.update.id⟩, outcome⟩] := by
  cases hlookUp <;> exact ⟨_, rfl⟩

/-! ## Courses -/

/-- The rules that stand before the calls of a command. -/
def Command.check (now : View) : Command → Except DomainError Unit
  | .inspect | .cancelEditPanel | .dismissNotice => .ok ()
  | .openRejectionPanel index placeholder =>
    (now.openRejectionPanel index placeholder).map fun _ => ()
  | .startRejection index =>
    (now.openRejectionPanel index CommentPurpose.rejection.hint).map fun _ => ()
  | .cancelRejectionPanel index => (now.cancelRejectionPanel index).map fun _ => ()
  | .submitRejection index comment => (now.rejectionReply index comment).map fun _ => ()
  | .openEditPanel target placeholder => (now.openEditPanel target placeholder).map fun _ => ()
  | .submitEdit edited comment => (now.proposedEdit edited comment).map fun _ => ()
  | .refreshStatus index => (now.thread.get index).map fun _ => ()
  | .accept index => (now.actionable index .accept).map fun _ => ()
  | .retract index => (now.actionable index .retract).map fun _ => ()

/-- The ways a command can go on a view. -/
inductive Course (now : View) :
    Command → List Exchange → Except Error CommandResult → View → Prop where
  | inspected : Course now .inspect [] (.ok .done) now
  | noticeDismissed : Course now .dismissNotice [] (.ok .done) now.dismissNotice.2
  /-- A rule refuses, and nothing is sent. -/
  | refused {command : Command} {error : DomainError} (hcheck : command.check now = .error error) :
      Course now command [] (.error (.domain error)) (now.reporting (.domain error))
  | rejectionOpened {index : UInt32} {placeholder : String} {entry : Entry}
      (hentry : now.actionable index .reject = .ok entry) :
      Course now (.openRejectionPanel index placeholder) [] (.ok .done)
        { now with panels := (now.panels.insert ⟨.entry index, .rejection, placeholder⟩).2 }
  | rejectionStarted {index : UInt32} {entry : Entry}
      (hentry : now.actionable index .reject = .ok entry) :
      Course now (.startRejection index) [] (.ok .done)
        { now with
          panels := (now.panels.insert
            ⟨.entry index, .rejection, CommentPurpose.rejection.hint⟩).2 }
  | rejectionCancelled {index : UInt32} {panel : Panel}
      (hpanel : now.panels.require (.entry index) = .ok panel) :
      Course now (.cancelRejectionPanel index) [] (.ok .done) (now.closePanel (.entry index))
  | editOpened {target : EditTarget} {placeholder : String} (hoffered : now.editOffered = true) :
      Course now (.openEditPanel target placeholder) [] (.ok .done)
        { now with
          display := .editing now.text
          panels := (now.panels.insert ⟨.text, .changeAndComment target, placeholder⟩).2 }
  | editCancelled : Course now .cancelEditPanel [] (.ok .done) now.cancelEditPanel
  | refreshed {index : UInt32} {entry : Entry} {exchanges : List Exchange}
      {ending : Ending (Option Status)} {after : View}
      (hget : now.thread.get index = .ok entry)
      (hlookUp : LookUp now index entry exchanges ending after) :
      Course now (.refreshStatus index) exchanges (ending.result.map .status)
        (ending.settled after)
  | editUnchanged {edited comment : String} (hedit : now.proposedEdit edited comment = .ok none) :
      Course now (.submitEdit edited comment) [] (.ok (.edit .unchanged)) now
  | editFailed {edited comment : String} {submission : Submission}
      (hedit : now.proposedEdit edited comment = .ok (some submission))
      {outcome : Outcome Saved} {error : Error} (hfailure : outcome.failure? = some error) :
      Course now (.submitEdit edited comment) [⟨⟨now.viewer, .submit submission⟩, outcome⟩]
        (.error error) (now.reporting error)
  /-- The edit is saved and appended, and its status is looked up. -/
  | editSaved {edited comment : String} {submission : Submission} {saved : Saved} {entry : Entry}
      {exchanges : List Exchange} {ending : Ending (Option Status)} {after : View}
      (hedit : now.proposedEdit edited comment = .ok (some submission))
      (hget : (now.applyEditSubmitted (.ofSaved saved submission .judger)).2.thread.get
        now.thread.nextIndex = .ok entry)
      (hlookUp : LookUp (now.applyEditSubmitted (.ofSaved saved submission .judger)).2
        now.thread.nextIndex entry exchanges ending after) :
      Course now (.submitEdit edited comment)
        (⟨⟨now.viewer, .submit submission⟩, .answered saved⟩ :: exchanges)
        (ending.attempted (.edit (.submitted now.thread.nextIndex))).result (ending.settled after)
  /-- The closing of the rejected update breaks down.  By then the reply may have been saved; nothing
  is heard of it. -/
  | rejectionBrokeDown {index : UInt32} {comment target : String} {submission : Submission}
      (hreply : now.rejectionReply index comment = .ok (target, submission)) (message : String)
      {outcome : Outcome Saved} (hsame : ∀ other, outcome = .panicked other → other = message) :
      Course now (.submitRejection index comment)
        [⟨⟨now.viewer, .reject target⟩, .panicked message⟩,
          ⟨⟨now.viewer, .submit submission⟩, outcome⟩]
        (.error (abortion message)) (now.reporting (abortion message))
  | rejectionFailed {index : UInt32} {comment target : String} {submission : Submission}
      (hreply : now.rejectionReply index comment = .ok (target, submission))
      (rejected : Except Backend.Error Unit) {outcome : Outcome Saved} {error : Error}
      (hfailure : outcome.failure? = some error) :
      Course now (.submitRejection index comment)
        [⟨⟨now.viewer, .reject target⟩, .ofExcept rejected⟩,
          ⟨⟨now.viewer, .submit submission⟩, outcome⟩]
        (.error error) (now.reporting error)
  /-- The reply is saved and appended, whether or not the rejected update was closed, and its
  status is looked up. -/
  | rejectionSaved {index : UInt32} {comment target : String} {submission : Submission}
      {saved : Saved} {entry : Entry} {exchanges : List Exchange}
      {ending : Ending (Option Status)} {after : View}
      (hreply : now.rejectionReply index comment = .ok (target, submission))
      (rejected : Except Backend.Error Unit)
      (hget : (now.replied index (.ofSaved saved submission .author)).thread.get
        now.thread.nextIndex = .ok entry)
      (hlookUp : LookUp ((now.replied index (.ofSaved saved submission .author)).reportingUnrejected
        target rejected) now.thread.nextIndex entry exchanges ending after) :
      Course now (.submitRejection index comment)
        (⟨⟨now.viewer, .reject target⟩, .ofExcept rejected⟩ ::
          ⟨⟨now.viewer, .submit submission⟩, .answered saved⟩ :: exchanges)
        (ending.attempted (.reply now.thread.nextIndex)).result (ending.settled after)
  | acceptFailed {index : UInt32} {entry : Entry}
      (hentry : now.actionable index .accept = .ok entry)
      {outcome : Outcome Accepted} {error : Error} (hfailure : outcome.failure? = some error) :
      Course now (.accept index) [⟨⟨now.viewer, .accept entry.update.id⟩, outcome⟩]
        (.error error) (now.reporting error)
  | accepted {index : UInt32} {entry : Entry}
      (hentry : now.actionable index .accept = .ok entry) (answer : Accepted) :
      Course now (.accept index) [⟨⟨now.viewer, .accept entry.update.id⟩, .answered answer⟩]
        (.ok .done) (now.accepted index answer)
  | retractFailed {index : UInt32} {entry : Entry}
      (hentry : now.actionable index .retract = .ok entry)
      {outcome : Outcome Unit} {error : Error} (hfailure : outcome.failure? = some error) :
      Course now (.retract index) [⟨⟨now.viewer, .retract entry.update.id⟩, outcome⟩]
        (.error error) (now.reporting error)
  | retracted {index : UInt32} {entry : Entry}
      (hentry : now.actionable index .retract = .ok entry) :
      Course now (.retract index) [⟨⟨now.viewer, .retract entry.update.id⟩, .answered ()⟩]
        (.ok .done) (now.retracted index)

/-! ## There is no other way -/

section

variable {now next : View} {exchanges : List Exchange} {result : Except Error CommandResult}

lemma refused_of_map {α : Type} {command : Command} {rule : Except DomainError α}
    {error : DomainError} (hcheck : command.check now = rule.map fun _ => ())
    (hrule : rule = .error error) :
    Course now command [] (.error (.domain error)) (now.reporting (.domain error)) := by
  rw [hrule] at hcheck
  exact .refused hcheck

/-- A command without calls goes the way its rule says. -/
lemma course_of_local {command : Command} (rule : View → Except DomainError View)
    (hcheck : command.check now = (rule now).map fun _ => ())
    (hallowed : ∀ changed, rule now = .ok changed → Course now command [] (.ok .done) changed)
    (hpath : Path (Operation.asDone (Procedure.settle (Procedure.view >>= fun now =>
      Procedure.check (rule now) >>= Procedure.setView)) now) exchanges (result, next)) :
    Course now command exchanges result next := by
  obtain ⟨error, hrule, rfl, rfl, rfl⟩ | ⟨changed, _, _, hrule, hrest, rfl, rfl⟩ :=
    path_rule_iff.mp hpath
  · exact refused_of_map hcheck hrule
  · cases hrest
    exact hallowed _ hrule

lemma course_of_refreshStatus {index : UInt32}
    (hpath : Path ((Command.refreshStatus index).operation now) exchanges (result, next)) :
    Course now (.refreshStatus index) exchanges result next := by
  obtain ⟨ending, after, hbody, rfl, rfl⟩ := path_settle_map_iff.mp hpath
  cases hget : now.thread.get index with
  | error error =>
    rw [lookUpStatus_of_get_error hget] at hbody
    cases hbody
    exact refused_of_map rfl hget
  | ok entry => exact .refreshed hget ((lookUp_iff hget).mp hbody)

lemma course_of_accept {index : UInt32}
    (hpath : Path ((Command.accept index).operation now) exchanges (result, next)) :
    Course now (.accept index) exchanges result next := by
  obtain ⟨error, hrule, rfl, rfl, rfl⟩ | ⟨entry, ending, after, hentry, hrest, rfl, rfl⟩ :=
    path_rule_iff.mp hpath
  · exact refused_of_map rfl hrule
  rw [Procedure.require_bind] at hrest
  cases hrest with
  | ask outcome rest =>
    cases outcome with
    | failed error => cases rest; exact .acceptFailed hentry rfl
    | panicked message => cases rest; exact .acceptFailed hentry rfl
    | answered answer =>
      simp only [Procedure.view_bind, View.applyAccept_of_actionable hentry,
        Procedure.check_ok_bind] at rest
      cases rest
      exact .accepted hentry answer

lemma course_of_retract {index : UInt32}
    (hpath : Path ((Command.retract index).operation now) exchanges (result, next)) :
    Course now (.retract index) exchanges result next := by
  obtain ⟨error, hrule, rfl, rfl, rfl⟩ | ⟨entry, ending, after, hentry, hrest, rfl, rfl⟩ :=
    path_rule_iff.mp hpath
  · exact refused_of_map rfl hrule
  rw [Procedure.require_bind] at hrest
  cases hrest with
  | ask outcome rest =>
    cases outcome with
    | failed error => cases rest; exact .retractFailed hentry rfl
    | panicked message => cases rest; exact .retractFailed hentry rfl
    | answered answer =>
      simp only [Procedure.view_bind, View.applyRetract_of_actionable hentry,
        Procedure.check_ok_bind] at rest
      cases rest
      exact .retracted hentry

lemma course_of_submitEdit {edited comment : String}
    (hpath : Path ((Command.submitEdit edited comment).operation now) exchanges (result, next)) :
    Course now (.submitEdit edited comment) exchanges result next := by
  obtain ⟨error, hrule, rfl, rfl, rfl⟩ | ⟨submission?, ending, after, hedit, hrest, rfl, rfl⟩ :=
    path_rule_iff.mp hpath
  · exact refused_of_map rfl hrule
  cases submission? with
  | none =>
    cases hrest
    exact .editUnchanged hedit
  | some submission =>
    simp only [Procedure.require_bind] at hrest
    cases hrest with
    | ask outcome rest =>
      cases outcome with
      | failed error => cases rest; exact .editFailed hedit rfl
      | panicked message => cases rest; exact .editFailed hedit rfl
      | answered saved =>
        simp only [Procedure.view_bind, Procedure.setView_bind] at rest
        obtain ⟨inner, left, hlookUp, rfl, rfl⟩ := path_attempt_iff.mp rest
        obtain ⟨entry, hget⟩ :=
          Thread.exists_get_append now.thread (.ofSaved saved submission .judger)
        rw [Ending.settled_noticed, Ending.map_result_attempted]
        exact .editSaved hedit hget ((lookUp_iff hget).mp hlookUp)

/-- The report of an update that could not be closed is a step of its own. -/
lemma reportUnrejected_bind {α : Type} (target : String) (rejected : Except Backend.Error Unit)
    (f : Unit → Procedure α) :
    (reportUnrejected target rejected >>= f) now =
      f () (now.reportingUnrejected target rejected) := by
  cases rejected <;> rfl

/-- What is left of a rejection once both of its calls have ended. -/
def appendReply (index : UInt32) (target : String) (submission : Submission)
    (rejected : Except Backend.Error Unit) (saved : Except Backend.Error Saved) :
    Procedure UInt32 := do
  let saved ← Procedure.expect saved
  let now ← Procedure.view
  let (newIndex, replied) ←
    Procedure.check (now.applyRejectionReply index (.ofSaved saved submission .author))
  Procedure.setView replied
  reportUnrejected target rejected
  Procedure.attempt (lookUpStatus newIndex)
  return newIndex

/-- A reply that was not saved is reported, and one that was is appended. -/
lemma course_of_appendReply {index : UInt32} {comment target : String} {submission : Submission}
    (hreply : now.rejectionReply index comment = .ok (target, submission))
    (rejected : Except Backend.Error Unit) (saved : Except Backend.Error Saved)
    {ending : Ending UInt32} {after : View}
    (hrest : Path (appendReply index target submission rejected saved now) exchanges
      (ending, after)) :
    Course now (.submitRejection index comment)
      (⟨⟨now.viewer, .reject target⟩, .ofExcept rejected⟩ ::
        ⟨⟨now.viewer, .submit submission⟩, .ofExcept saved⟩ :: exchanges)
      (ending.result.map .reply) (ending.settled after) := by
  obtain ⟨panel, entry, -, hentry, -, -, -⟩ := View.rejectionReply_eq_ok hreply
  cases saved with
  | error error =>
    cases hrest
    exact .rejectionFailed hreply rejected rfl
  | ok saved =>
    simp only [appendReply, Procedure.expect_ok_bind, Procedure.view_bind,
      View.applyRejectionReply_of_actionable hentry, Procedure.check_ok_bind,
      Procedure.setView_bind, reportUnrejected_bind] at hrest
    obtain ⟨inner, left, hlookUp, rfl, rfl⟩ := path_attempt_iff.mp hrest
    obtain ⟨found, hget⟩ : ∃ found, (now.replied index
        (.ofSaved saved submission .author)).thread.get now.thread.nextIndex = .ok found :=
      Thread.exists_get_append (now.thread.modify index _) _
    have hreported := hget
    rw [← View.thread_reportingUnrejected _ target rejected] at hreported
    rw [Ending.settled_noticed, Ending.map_result_attempted]
    exact .rejectionSaved hreply rejected hget ((lookUp_iff hreported).mp hlookUp)

lemma course_of_submitRejection {index : UInt32} {comment : String}
    (hpath : Path ((Command.submitRejection index comment).operation now) exchanges
      (result, next)) :
    Course now (.submitRejection index comment) exchanges result next := by
  obtain ⟨error, hrule, rfl, rfl, rfl⟩ | ⟨⟨target, submission⟩, ending, after, hreply, hrest, rfl,
    rfl⟩ := path_rule_iff.mp hpath
  · exact refused_of_map rfl hrule
  simp only [Procedure.putAll_bind] at hrest
  cases hrest with
  | askAll together rest =>
    obtain ⟨rejected, saved, rfl, rfl⟩ | ⟨rejected, message, rfl, rfl⟩ |
      ⟨message, outcome, rfl, rfl, hsame⟩ := together_pair_iff.mp together
    · exact course_of_appendReply hreply rejected saved rest
    · cases rest
      exact .rejectionFailed hreply rejected rfl
    · cases rest
      exact .rejectionBrokeDown hreply message hsame

/-- Every path of a command is one of its courses. -/
theorem course_of_path {command : Command}
    (hpath : Path (command.operation now) exchanges (result, next)) :
    Course now command exchanges result next := by
  cases command with
  | inspect => cases hpath; exact .inspected
  | cancelEditPanel => cases hpath; exact .editCancelled
  | dismissNotice => cases hpath; exact .noticeDismissed
  | openRejectionPanel index placeholder =>
    refine course_of_local (·.openRejectionPanel index placeholder) rfl ?_ hpath
    intro changed hopened
    obtain ⟨entry, hentry, rfl⟩ := View.openRejectionPanel_eq_ok hopened
    exact .rejectionOpened hentry
  | startRejection index =>
    refine course_of_local (·.openRejectionPanel index CommentPurpose.rejection.hint) rfl ?_ hpath
    intro changed hopened
    obtain ⟨entry, hentry, rfl⟩ := View.openRejectionPanel_eq_ok hopened
    exact .rejectionStarted hentry
  | cancelRejectionPanel index =>
    refine course_of_local (·.cancelRejectionPanel index) rfl ?_ hpath
    intro changed hclosed
    obtain ⟨panel, hpanel, ⟨⟩⟩ := bind_eq_ok_iff.mp hclosed
    exact .rejectionCancelled hpanel
  | openEditPanel target placeholder =>
    refine course_of_local (·.openEditPanel target placeholder) rfl ?_ hpath
    intro changed hopened
    obtain ⟨hoffered, rfl⟩ := View.openEditPanel_eq_ok hopened
    exact .editOpened hoffered
  | submitRejection index comment => exact course_of_submitRejection hpath
  | submitEdit edited comment => exact course_of_submitEdit hpath
  | refreshStatus index => exact course_of_refreshStatus hpath
  | accept index => exact course_of_accept hpath
  | retract index => exact course_of_retract hpath

/-! ## Each of them can be taken -/

/-- A command whose rules refuse sends nothing and reports the refusal. -/
lemma path_of_refused {command : Command} {error : DomainError}
    (hcheck : command.check now = .error error) :
    Path (command.operation now) [] (.error (.domain error), now.reporting (.domain error)) := by
  have hrefused : ∀ {α : Type} {rule : Except DomainError α},
      (rule.map fun _ => ()) = .error error → rule = .error error := by
    intro α rule hmap
    cases rule with
    | error failure => exact congrArg _ (Except.error.inj hmap)
    | ok value => cases hmap
  cases command with
  | inspect => cases hcheck
  | cancelEditPanel => cases hcheck
  | dismissNotice => cases hcheck
  | _ => exact path_rule_iff.mpr (.inl ⟨error, hrefused hcheck, rfl, rfl, rfl⟩)

/-- An operation stops where its first call has to be answered and is not. -/
lemma path_rule_of_failure {α β γ : Type} {rule : View → Except DomainError γ}
    {rest : View → γ → Procedure α} {f : α → β} {value : γ} {call : Backend.Call}
    {outcome : Outcome call.Answer} {error : Error} {next : call.Answer → Procedure α}
    (hrule : rule now = .ok value) (hfailure : outcome.failure? = some error)
    (hrest : rest now value now = (Procedure.require call >>= next) now) :
    Path (Operation.map f (Procedure.settle (Procedure.view >>= fun now =>
      Procedure.check (rule now) >>= rest now)) now) [⟨call, outcome⟩]
      (.error error, now.reporting error) := by
  rw [Procedure.require_bind] at hrest
  cases outcome with
  | answered answer => cases hfailure
  | failed failure =>
    cases hfailure
    exact path_rule_iff.mpr
      (.inr ⟨value, .failed _, now, hrule, by rw [hrest]; exact .ask _ (.done _), rfl, rfl⟩)
  | panicked message =>
    cases hfailure
    exact path_rule_iff.mpr
      (.inr ⟨value, .aborted message, now, hrule, by rw [hrest]; exact .ask _ (.done _), rfl, rfl⟩)

/-- A reply that is saved is appended, and its status is looked up. -/
lemma path_appendReply {index : UInt32} {comment target : String} {submission : Submission}
    {saved : Saved} {entry : Entry} {ending : Ending (Option Status)} {after : View}
    (hreply : now.rejectionReply index comment = .ok (target, submission))
    (rejected : Except Backend.Error Unit)
    (hget : (now.replied index (.ofSaved saved submission .author)).thread.get
      now.thread.nextIndex = .ok entry)
    (hlookUp : LookUp ((now.replied index (.ofSaved saved submission .author)).reportingUnrejected
      target rejected) now.thread.nextIndex entry exchanges ending after) :
    Path (appendReply index target submission rejected (.ok saved) now) exchanges
      (ending.attempted now.thread.nextIndex, ending.noticed after) := by
  obtain ⟨panel, rejectedEntry, -, hentry, -, -, -⟩ := View.rejectionReply_eq_ok hreply
  rw [← View.thread_reportingUnrejected _ target rejected] at hget
  simp only [appendReply, Procedure.expect_ok_bind, Procedure.view_bind,
    View.applyRejectionReply_of_actionable hentry, Procedure.check_ok_bind,
    Procedure.setView_bind, reportUnrejected_bind]
  exact path_attempt_iff.mpr ⟨ending, after, (lookUp_iff hget).mpr hlookUp, rfl, rfl⟩

section

variable {index : UInt32} {comment target : String} {submission : Submission}

/-- A rejection goes on once both of its calls have ended. -/
lemma path_submitRejection {ending : Ending UInt32} {after : View}
    (hreply : now.rejectionReply index comment = .ok (target, submission))
    (rejected : Except Backend.Error Unit) (saved : Except Backend.Error Saved)
    (hrest : Path (appendReply index target submission rejected saved now) exchanges
      (ending, after)) :
    Path ((Command.submitRejection index comment).operation now)
      (⟨⟨now.viewer, .reject target⟩, .ofExcept rejected⟩ ::
        ⟨⟨now.viewer, .submit submission⟩, .ofExcept saved⟩ :: exchanges)
      (ending.result.map .reply, ending.settled after) := by
  have htogether : Together [⟨now.viewer, .reject target⟩, ⟨now.viewer, .submit submission⟩]
      [⟨⟨now.viewer, .reject target⟩, .ofExcept rejected⟩,
        ⟨⟨now.viewer, .submit submission⟩, .ofExcept saved⟩] (.ok (rejected, saved, ())) :=
    together_pair_iff.mpr (.inl ⟨rejected, saved, rfl, rfl⟩)
  refine path_rule_iff.mpr (.inr ⟨_, ending, after, hreply, ?_, rfl, rfl⟩)
  simp only [Procedure.putAll_bind]
  exact .askAll htogether hrest

/-- A rejection is aborted where one of its calls breaks down. -/
lemma path_submitRejection_of_takenDown {pair : List Exchange} {message : String}
    (hreply : now.rejectionReply index comment = .ok (target, submission))
    (htogether : Together [⟨now.viewer, .reject target⟩, ⟨now.viewer, .submit submission⟩] pair
      (.error message)) :
    Path ((Command.submitRejection index comment).operation now) pair
      (.error (abortion message), now.reporting (abortion message)) := by
  refine path_rule_iff.mpr (.inr ⟨_, .aborted message, now, hreply, ?_, rfl, rfl⟩)
  simp only [Procedure.putAll_bind]
  exact path_askAll_of_done htogether rfl

end

/-- Every course of a command is one of its paths. -/
theorem path_of_course {command : Command} (hcourse : Course now command exchanges result next) :
    Path (command.operation now) exchanges (result, next) := by
  cases hcourse with
  | inspected => exact .done _
  | noticeDismissed => exact .done _
  | editCancelled => exact .done _
  | refused hcheck => exact path_of_refused hcheck
  | rejectionOpened hentry =>
    refine path_rule_iff.mpr (.inr ⟨_, .returned (), _, ?_, .done _, rfl, rfl⟩)
    rw [View.openRejectionPanel, hentry]
    rfl
  | rejectionStarted hentry =>
    refine path_rule_iff.mpr (.inr ⟨_, .returned (), _, ?_, .done _, rfl, rfl⟩)
    rw [View.openRejectionPanel, hentry]
    rfl
  | rejectionCancelled hpanel =>
    refine path_rule_iff.mpr (.inr ⟨_, .returned (), _, ?_, .done _, rfl, rfl⟩)
    rw [View.cancelRejectionPanel, hpanel]
    rfl
  | editOpened hoffered =>
    refine path_rule_iff.mpr (.inr ⟨_, .returned (), _, ?_, .done _, rfl, rfl⟩)
    rw [View.openEditPanel, if_pos hoffered]
  | refreshed hget hlookUp =>
    exact path_settle_map_iff.mpr ⟨_, _, (lookUp_iff hget).mpr hlookUp, rfl, rfl⟩
  | editUnchanged hedit =>
    exact path_rule_iff.mpr (.inr ⟨_, .returned .unchanged, _, hedit, .done _, rfl, rfl⟩)
  | editFailed hedit hfailure => exact path_rule_of_failure hedit hfailure rfl
  | @editSaved edited comment submission saved entry exchanges ending after hedit hget hlookUp =>
    rw [← Ending.settled_noticed (EditOutcome.submitted now.thread.nextIndex),
      ← Ending.map_result_attempted]
    refine path_rule_iff.mpr (.inr ⟨_, _, _, hedit, ?_, rfl, rfl⟩)
    simp only [Procedure.require_bind]
    refine .ask _ ?_
    simp only [Procedure.view_bind, Procedure.setView_bind]
    exact path_attempt_iff.mpr ⟨ending, after, (lookUp_iff hget).mpr hlookUp, rfl, rfl⟩
  | rejectionBrokeDown hreply message hsame =>
    exact path_submitRejection_of_takenDown hreply
      (together_pair_iff.mpr (.inr (.inr ⟨message, _, rfl, rfl, hsame⟩)))
  | rejectionFailed hreply rejected hfailure =>
    rename Outcome Saved => outcome
    cases outcome with
    | answered saved => cases hfailure
    | failed error =>
      cases hfailure
      exact path_submitRejection hreply rejected (.error error) (.done _)
    | panicked message =>
      cases hfailure
      exact path_submitRejection_of_takenDown hreply
        (together_pair_iff.mpr (.inr (.inl ⟨rejected, message, rfl, rfl⟩)))
  | @rejectionSaved index comment target submission saved entry exchanges ending after hreply rejected
      hget hlookUp =>
    rw [← Ending.settled_noticed now.thread.nextIndex, ← Ending.map_result_attempted]
    exact path_submitRejection hreply rejected (.ok saved)
      (path_appendReply hreply rejected hget hlookUp)
  | acceptFailed hentry hfailure => exact path_rule_of_failure hentry hfailure rfl
  | accepted hentry answer =>
    refine path_rule_iff.mpr (.inr ⟨_, .returned (), _, hentry, ?_, rfl, rfl⟩)
    rw [Procedure.require_bind]
    refine .ask _ ?_
    simp only [Procedure.view_bind, View.applyAccept_of_actionable hentry,
      Procedure.check_ok_bind]
    exact .done _
  | retractFailed hentry hfailure => exact path_rule_of_failure hentry hfailure rfl
  | retracted hentry =>
    refine path_rule_iff.mpr (.inr ⟨_, .returned (), _, hentry, ?_, rfl, rfl⟩)
    rw [Procedure.require_bind]
    refine .ask _ ?_
    simp only [Procedure.view_bind, View.applyRetract_of_actionable hentry,
      Procedure.check_ok_bind]
    exact .done _

end

end AnnotationReview.Review
