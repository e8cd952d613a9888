import AnnotationReview.Proofs.PanelSet
import AnnotationReview.Review.Submission
import Mathlib.Tactic.Lemma

/-!
# What the rules of a review allow

An entry that the viewer may act on is there, open and shown, and the viewer has the role the
action asks for.  This is all that the confirmed steps need: each of them succeeds on such an
entry, so that a step whose request the backend granted is never refused afterwards.  The rules in
front of a submission are taken apart in the same way.
-/

namespace AnnotationReview

/-- Two rules in a row allow what the second makes of what the first allows. -/
lemma bind_eq_ok_iff {α β : Type} {rule : Except DomainError α} {next : α → Except DomainError β}
    {allowed : β} :
    (rule >>= next) = .ok allowed ↔ ∃ value, rule = .ok value ∧ next value = .ok allowed := by
  cases rule <;> simp [bind, Except.bind]

namespace Entry

variable {entry : Entry} {viewer : String} {action : Action}

lemma isLive_iff : entry.isLive = true ↔ entry.status = some .opened ∧ entry.hidden = false := by
  obtain ⟨_, _, status, hidden⟩ := entry
  cases status with
  | none => simp [isLive, isOpen]
  | some status => simp [isLive, isOpen, Status.isOpen]

/-- Taking back is what the proposer may do, and nothing else is. -/
lemma retract_iff_of_authorize (hrole : entry.authorize viewer action = .ok ()) :
    action = .retract ↔ entry.update.proposer = viewer := by
  unfold authorize at hrole
  cases hproposed : entry.proposedBy viewer with
  | true =>
    have hsame : entry.update.proposer = viewer := by simpa [proposedBy] using hproposed
    cases action <;> simp [hproposed, hsame] at hrole ⊢
  | false =>
    have hother : entry.update.proposer ≠ viewer := by simpa [proposedBy] using hproposed
    cases action <;> simp [hproposed, hother] at hrole ⊢

end Entry

namespace Thread

variable {thread : Thread} {index : UInt32} {entry : Entry}

/-! ## Looking entries up -/

lemma get_eq_ok_iff : thread.get index = .ok entry ↔ thread.find? index = some entry := by
  unfold get
  cases thread.find? index <;> simp

lemma mem_of_get (hget : thread.get index = .ok entry) : entry ∈ thread.entries :=
  List.mem_of_find?_eq_some (get_eq_ok_iff.mp hget)

lemma index_of_get (hget : thread.get index = .ok entry) : entry.index = index := by
  have hindex := List.find?_some (get_eq_ok_iff.mp hget)
  simpa using hindex

lemma exists_get_of_mem (hmem : entry ∈ thread.entries) :
    ∃ found, thread.get entry.index = .ok found := by
  have hfound : ∃ found, thread.find? entry.index = some found := by
    rw [← Option.isSome_iff_exists, find?, List.find?_isSome]
    exact ⟨entry, hmem, by simp⟩
  exact hfound.imp fun _ => get_eq_ok_iff.mpr

/-- An entry that was just appended is found under the index it was given. -/
lemma exists_get_append (thread : Thread) (update : Update) :
    ∃ found, (thread.append update).2.get thread.nextIndex = .ok found := by
  have hmem : ⟨thread.nextIndex, update, none, false⟩ ∈ (thread.append update).2.entries := by simp
  exact exists_get_of_mem hmem

/-! ## Steps on an entry -/

/-- Recording a status never fails on an entry that is there. -/
lemma setStatus_of_get (hget : thread.get index = .ok entry) (status : Status) :
    thread.setStatus index status =
      .ok (thread.modify index fun entry => { entry with status := some status }) := by
  rw [setStatus, hget]
  rfl

lemma statusAfter_of_isLive (hget : thread.get index = .ok entry) (hlive : entry.isLive = true)
    (action : Action) : thread.statusAfter index action = .ok action.result := by
  obtain ⟨hopen, -⟩ := Entry.isLive_iff.mp hlive
  rw [statusAfter, hget]
  simp only [bind, Except.bind, hopen]
  rfl

end Thread

namespace View

variable {view : View} {index : UInt32} {entry : Entry} {action : Action}

/-- The entry an action may be taken on is there, open, shown and of the right proposer. -/
lemma actionable_eq_ok_iff :
    view.actionable index action = .ok entry ↔
      view.thread.get index = .ok entry ∧ entry.isLive = true ∧
        entry.authorize view.viewer action = .ok () := by
  rw [actionable, bind_eq_ok_iff]
  constructor
  · rintro ⟨found, hget, hfound⟩
    split at hfound
    next hlive =>
      obtain ⟨⟨⟩, hrole, hsame⟩ := bind_eq_ok_iff.mp hfound
      cases hsame
      exact ⟨hget, hlive, hrole⟩
    next => cases hfound
  · rintro ⟨hget, hlive, hrole⟩
    refine ⟨entry, hget, ?_⟩
    rw [if_pos hlive, hrole]
    rfl

/-! ## Panels -/

lemma openRejectionPanel_eq_ok {placeholder : String} {next : View}
    (hopened : view.openRejectionPanel index placeholder = .ok next) :
    ∃ entry, view.actionable index .reject = .ok entry ∧
      next = { view with
        panels := (view.panels.insert ⟨.entry index, .rejection, placeholder⟩).2 } := by
  obtain ⟨entry, hentry, hnext⟩ := bind_eq_ok_iff.mp hopened
  cases hnext
  exact ⟨entry, hentry, rfl⟩

lemma openEditPanel_eq_ok {target : EditTarget} {placeholder : String} {next : View}
    (hopened : view.openEditPanel target placeholder = .ok next) :
    view.editOffered = true ∧ next = { view with
      display := .editing view.text
      panels := (view.panels.insert ⟨.text, .changeAndComment target, placeholder⟩).2 } := by
  unfold openEditPanel at hopened
  split at hopened
  next hoffered =>
    cases hopened
    exact ⟨hoffered, rfl⟩
  next => cases hopened

/-! ## Confirmed steps -/

/-- An entry that may be accepted is marked accepted and hidden, and nothing is refused. -/
lemma applyAccept_of_actionable (hentry : view.actionable index .accept = .ok entry)
    (updatedText : String) (oldText : Option String) :
    view.applyAccept index updatedText oldText = .ok { view.closePanel (.entry index) with
      text := updatedText
      previousText := some (oldText.getD view.text)
      editOffered := true
      thread := view.thread.modify index fun entry =>
        { entry with status := some .accepted, hidden := true } } := by
  obtain ⟨hget, hlive, -⟩ := actionable_eq_ok_iff.mp hentry
  rw [applyAccept, Thread.markAccepted, Thread.statusAfter_of_isLive hget hlive]
  rfl

/-- An entry that may be rejected is marked rejected, and its reply comes last. -/
lemma applyRejectionReply_of_actionable (hentry : view.actionable index .reject = .ok entry)
    (reply : Update) :
    view.applyRejectionReply index reply = .ok (view.thread.nextIndex,
      { view.closePanel (.entry index) with
        display := .viewing
        thread := ((view.thread.modify index fun entry =>
          { entry with status := some .rejected }).append reply).2 }) := by
  obtain ⟨hget, hlive, -⟩ := actionable_eq_ok_iff.mp hentry
  rw [applyRejectionReply, Thread.markRejected, Thread.transition,
    Thread.statusAfter_of_isLive hget hlive]
  rfl

/-- An entry that may be taken back is taken out of the thread. -/
lemma applyRetract_of_actionable (hentry : view.actionable index .retract = .ok entry) :
    view.applyRetract index = .ok ({ entry with status := some .retracted },
      { view.closePanel (.entry index) with
        editOffered := true
        thread := view.thread.erase index }) := by
  obtain ⟨hget, hlive, -⟩ := actionable_eq_ok_iff.mp hentry
  rw [applyRetract, Thread.removeRetracted, Thread.statusAfter_of_isLive hget hlive]
  simp only [bind, Except.bind, hget]
  rfl

/-! ## Submissions -/

lemma length_of_check {comment : String} {purpose : CommentPurpose}
    (hcomment : Comment.check comment purpose = .ok ()) : 10 ≤ comment.length := by
  unfold Comment.check at hcomment
  split at hcomment
  next => cases hcomment
  next hlong => simpa [Comment.minLength] using hlong

/-- What is sent to reject an entry comes from an open panel on an entry that may be rejected, a
comment that is long enough, and the text as it stands. -/
lemma rejectionReply_eq_ok {comment target : String} {submission : Backend.Submission}
    (hreply : view.rejectionReply index comment = .ok (target, submission)) :
    ∃ panel entry, view.panels.get? (.entry index) = some panel ∧
      view.actionable index .reject = .ok entry ∧ 10 ≤ comment.length ∧
      target = entry.update.id ∧
      submission = ⟨view.annotationId, view.text, comment, some entry.update.id⟩ := by
  obtain ⟨panel, hpanel, hreply⟩ := bind_eq_ok_iff.mp hreply
  obtain ⟨entry, hentry, hreply⟩ := bind_eq_ok_iff.mp hreply
  obtain ⟨⟨⟩, hcomment, hreply⟩ := bind_eq_ok_iff.mp hreply
  cases hreply
  exact ⟨panel, entry, PanelSet.require_eq_ok_iff.mp hpanel, hentry, length_of_check hcomment,
    rfl, rfl⟩

/-- What is sent to propose an edit comes from an open panel, a text that is not the present one
and a comment that is long enough. -/
lemma proposedEdit_eq_ok {edited comment : String} {submission : Backend.Submission}
    (hedit : view.proposedEdit edited comment = .ok (some submission)) :
    ∃ panel, view.panels.get? .text = some panel ∧ edited ≠ view.text ∧ 10 ≤ comment.length ∧
      submission = ⟨view.annotationId, edited, comment, none⟩ := by
  obtain ⟨panel, hpanel, hedit⟩ := bind_eq_ok_iff.mp hedit
  split at hedit
  next => cases hedit
  next hvacuous =>
    obtain ⟨⟨⟩, hcomment, hedit⟩ := bind_eq_ok_iff.mp hedit
    cases hedit
    refine ⟨panel, PanelSet.require_eq_ok_iff.mp hpanel, ?_, length_of_check hcomment, rfl⟩
    rintro rfl
    exact hvacuous (by simp [isVacuousEdit])

end View

end AnnotationReview
