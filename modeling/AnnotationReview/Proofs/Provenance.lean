import AnnotationReview.Proofs.Run

/-!
# Where the text comes from

The text of a view changes with an acceptance and with nothing else: it is what the backend has told
of the latest update that was accepted.  The text before it is the one that the backend reports as
replaced, or else the one that was shown until then.  So both can be read off the acceptances since
the mount (`text_told_by_acceptances`), and a reply that rejects an entry sends that very text.
-/

namespace AnnotationReview.Review

open Backend (Accepted Outcome Submission)
open Backend.Dialogue (Exchange Path)

/-! ## Acceptances -/

/-- What was answered, if the call has accepted an update. -/
def accepted? : Exchange → Option Accepted
  | ⟨⟨_, .accept _⟩, .answered answer⟩ => some answer
  | _ => none

namespace Event

/-- An entry was accepted. -/
def Accepts (event : Event) : Prop :=
  ∃ index value, event.command = .accept index ∧ event.result = .ok value

/-- What the backend has told of the update, if one was accepted. -/
def acceptance? (event : Event) : Option Accepted :=
  match event.command, event.result with
  | .accept _, .ok _ => event.exchanges.findSome? accepted?
  | _, _ => none

end Event

/-- What the backend has told of the updates that were accepted in some events, in their order. -/
def acceptances (events : List Event) : List Accepted :=
  events.filterMap Event.acceptance?

/-- The text after some acceptances: the one that the latest has given, and without any the one at
first. -/
def textAfter (text : String) (accepted : List Accepted) : String :=
  (accepted.getLast?.map Accepted.newText).getD text

/-- The text that the latest of some acceptances has replaced: the one that the backend reports, or
else the one after the acceptances before it. -/
def replacedText (text : String) (previous : Option String) (accepted : List Accepted) :
    Option String :=
  match accepted.getLast? with
  | none => previous
  | some latest => some (latest.oldText.getD (textAfter text accepted.dropLast))

lemma textAfter_cons (text : String) (first : Accepted) (accepted : List Accepted) :
    textAfter text (first :: accepted) = textAfter first.newText accepted := by
  cases accepted with
  | nil => rfl
  | cons second accepted => simp [textAfter, List.getLast?_cons]

lemma replacedText_cons (text : String) (previous : Option String) (first : Accepted)
    (accepted : List Accepted) :
    replacedText text previous (first :: accepted) =
      replacedText first.newText (some (first.oldText.getD text)) accepted := by
  cases accepted with
  | nil => rfl
  | cons second accepted =>
    simp [replacedText, List.getLast?_cons, List.dropLast_cons_cons, textAfter_cons]

section

variable {now next : View} {command : Command} {exchanges : List Exchange}
  {result : Except Error CommandResult}

/-! ## One command -/

/-- What an event does to the texts of a view: nothing, or it puts an accepted text in the place of
the present one. -/
inductive Event.TextStep (now : View) (event : Event) (next : View) : Prop where
  | kept (haccepts : ¬event.Accepts) (hacceptance : event.acceptance? = none)
      (htext : next.text = now.text) (hprevious : next.previousText = now.previousText)
  | replaced (answer : Accepted) (haccepts : event.Accepts)
      (hacceptance : event.acceptance? = some answer) (htext : next.text = answer.newText)
      (hprevious : next.previousText = some (answer.oldText.getD now.text))

/-- An event that is no successful acceptance leaves the texts alone if it does so to the view. -/
lemma Event.TextStep.of_kept (haccepts : ¬(⟨command, exchanges, result⟩ : Event).Accepts)
    (htext : next.text = now.text) (hprevious : next.previousText = now.previousText) :
    Event.TextStep now ⟨command, exchanges, result⟩ next := by
  refine .kept haccepts ?_ htext hprevious
  unfold Event.acceptance?
  split
  next index value hcommand hresult => exact absurd ⟨index, value, hcommand, hresult⟩ haccepts
  next => rfl

/-- The look-up of a status leaves the texts alone. -/
lemma LookUp.texts_settled {base after : View} {index : UInt32} {entry : Entry}
    {lookUps : List Exchange} {ending : Ending (Option Status)}
    (hlookUp : LookUp base index entry lookUps ending after) :
    (ending.settled after).text = base.text ∧
      (ending.settled after).previousText = base.previousText := by
  obtain ⟨status?, notice, hsettled, -⟩ := hlookUp.exists_settled
  rw [hsettled]
  exact ⟨rfl, rfl⟩

/-- What a command does to the texts. -/
lemma textStep_of_course (hcourse : Course now command exchanges result next) :
    Event.TextStep now ⟨command, exchanges, result⟩ next := by
  cases hcourse with
  | accepted hentry answer => exact .replaced answer ⟨_, _, rfl, rfl⟩ rfl rfl rfl
  | refreshed hget hlookUp =>
    obtain ⟨htext, hprevious⟩ := hlookUp.texts_settled
    exact .of_kept (by simp [Event.Accepts]) htext hprevious
  | editSaved hedit hget hlookUp =>
    obtain ⟨htext, hprevious⟩ := hlookUp.texts_settled
    exact .of_kept (by simp [Event.Accepts]) htext hprevious
  | rejectionSaved hreply rejected hget hlookUp =>
    obtain ⟨htext, hprevious⟩ := hlookUp.texts_settled
    refine .of_kept (by simp [Event.Accepts]) (htext.trans ?_) (hprevious.trans ?_) <;>
      cases rejected <;> rfl
  | _ => exact .of_kept (by simp [Event.Accepts]) rfl rfl

/-- A submission that answers an update proposes the present text. -/
lemma text_of_reply (hcourse : Course now command exchanges result next) {viewer : String}
    {submission : Submission} {outcome : Outcome Backend.Saved}
    (hmem : ⟨⟨viewer, .submit submission⟩, outcome⟩ ∈ exchanges)
    (hreply : submission.answered? ≠ none) : submission.text = now.text := by
  cases hcourse with
  | editFailed hedit hfailure =>
    obtain ⟨_, -, -, -, rfl⟩ := View.proposedEdit_eq_ok hedit
    cases List.mem_singleton.mp hmem
    exact absurd rfl hreply
  | editSaved hedit hget hlookUp =>
    obtain ⟨_, -, -, -, rfl⟩ := View.proposedEdit_eq_ok hedit
    obtain ⟨_, rfl⟩ := hlookUp.exists_exchanges
    obtain ⟨⟨-, rfl⟩, -⟩ : (_ ∧ submission = _) ∧ _ := by simpa using hmem
    exact absurd rfl hreply
  | rejectionBrokeDown hsent =>
    obtain ⟨_, _, -, -, -, -, rfl⟩ := View.rejectionReply_eq_ok hsent
    obtain ⟨⟨-, rfl⟩, -⟩ : (_ ∧ submission = _) ∧ _ := by simpa using hmem
    rfl
  | rejectionFailed hsent rejected hfailure =>
    obtain ⟨_, _, -, -, -, -, rfl⟩ := View.rejectionReply_eq_ok hsent
    obtain ⟨⟨-, rfl⟩, -⟩ : (_ ∧ submission = _) ∧ _ := by simpa using hmem
    rfl
  | rejectionSaved hsent rejected hget hlookUp =>
    obtain ⟨_, _, -, -, -, -, rfl⟩ := View.rejectionReply_eq_ok hsent
    obtain ⟨_, rfl⟩ := hlookUp.exists_exchanges
    obtain ⟨⟨-, rfl⟩, -⟩ : (_ ∧ submission = _) ∧ _ := by simpa using hmem
    rfl
  | refreshed hget hlookUp =>
    obtain ⟨_, rfl⟩ := hlookUp.exists_exchanges
    simp at hmem
  | _ => simp at hmem

/-! ## A run -/

/-- The texts at the end of a run come from those at its start by the acceptances in it. -/
lemma texts_of_run {first last : View} {events : List Event} (hrun : Run first events last) :
    last.text = textAfter first.text (acceptances events) ∧
      last.previousText = replacedText first.text first.previousText (acceptances events) := by
  induction hrun with
  | nil => exact ⟨rfl, rfl⟩
  | cons head tail ih =>
    obtain ⟨htext, hprevious⟩ := ih
    cases textStep_of_course (course_of_path head) with
    | kept haccepts hacceptance hsame hsamePrevious =>
      rw [acceptances, List.filterMap_cons_none hacceptance, ← hsame, ← hsamePrevious]
      exact ⟨htext, hprevious⟩
    | replaced answer haccepts hacceptance hnew hreplaced =>
      rw [acceptances, List.filterMap_cons_some hacceptance, textAfter_cons, replacedText_cons,
        ← hnew, ← hreplaced]
      exact ⟨htext, hprevious⟩

end

/-- **Where the text comes from.**  After a mount and any commands, whatever the backend answers,
the text is the one that the backend has told of the latest update accepted since the mount, and the
mounted text if there is none; the previous text is the one that it reports as replaced, or else the
one that was shown immediately before, and there is none without an acceptance.  A further command
changes either of them only if it accepts an entry, of which the backend then has told, and every
submission that answers an update proposes the text that is shown. -/
theorem text_told_by_acceptances {annotationId viewer text : String} {loading : List Exchange}
    {mounted now : View} {past : List Event}
    (hmount : Mounts annotationId viewer text loading mounted) (hpast : Run mounted past now) :
    now.text = textAfter text (acceptances past) ∧
      now.previousText = replacedText text none (acceptances past) ∧
      ∀ command exchanges result next,
        Path (Command.operation command now) exchanges (result, next) →
        ((⟨command, exchanges, result⟩ : Event).Accepts ↔
          (⟨command, exchanges, result⟩ : Event).acceptance?.isSome = true) ∧
        (¬(⟨command, exchanges, result⟩ : Event).Accepts →
          next.text = now.text ∧ next.previousText = now.previousText) ∧
        ∀ sender submission outcome, ⟨⟨sender, .submit submission⟩, outcome⟩ ∈ exchanges →
          submission.answered? ≠ none → submission.text = now.text := by
  obtain ⟨htext, hprevious⟩ := texts_of_run hpast
  obtain ⟨thread, notice, rfl⟩ := (mountedAs_of_mounts hmount).fresh
  refine ⟨htext, hprevious, fun command exchanges result next hpath => ?_⟩
  have hcourse := course_of_path hpath
  refine ⟨?_, ?_, fun sender submission outcome => text_of_reply hcourse⟩
  · cases textStep_of_course hcourse with
    | kept haccepts hacceptance => simp [haccepts, hacceptance]
    | replaced answer haccepts hacceptance => simp [haccepts, hacceptance]
  · intro hother
    cases textStep_of_course hcourse with
    | kept haccepts hacceptance hsame hsamePrevious => exact ⟨hsame, hsamePrevious⟩
    | replaced answer haccepts => exact absurd haccepts hother

/-- Once the update of a judge is accepted its text is shown, and the mounted text is the one before
it, since the backend reports none. -/
theorem text_told_by_acceptance_of_judge :
    (reviewing.accepted 0 ⟨"list all files", none⟩).text = "list all files" ∧
      (reviewing.accepted 0 ⟨"list all files", none⟩).previousText = some "list files" := by
  have haccepted := path_of_course
    (.accepted (actionable_reviewing nofun) ⟨"list all files", none⟩)
  obtain ⟨htext, hprevious, -⟩ :=
    text_told_by_acceptances mounts_reviewing (.cons haccepted (.nil _))
  exact ⟨htext, hprevious⟩

end AnnotationReview.Review
