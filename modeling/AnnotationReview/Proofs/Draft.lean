import AnnotationReview.Proofs.Editing
import AnnotationReview.Proofs.Provenance

/-!
# The draft of an edit

An edit begins with a copy of the text.  The copy is not touched until the input is dropped, but
the text is: an update may be accepted while the edit is being written, and its text then takes the
place of the one that was copied.  So the draft is the text of the moment at which the edit was
begun, and the text has moved on by the acceptances since (`draft_told_by_acceptances`).  A draft
that is submitted as it was given comes to nothing as long as the two agree.  Where they do not, it
is sent as an edit that undoes the acceptance (`untouched_draft_sent`).
-/

namespace AnnotationReview.Review

open Backend.Dialogue (Exchange Path)

/-! ## The copy and the text -/

section

variable {now next first last : View} {command : Command} {exchanges : List Exchange}
  {result : Except Error CommandResult}

/-- An edit begins with a copy of the text. -/
lemma copied_of_opens (hcourse : Course now command exchanges result next)
    (hopens : (⟨command, exchanges, result⟩ : Event).Opens .text) :
    next.display = .editing now.text ∧ next.text = now.text := by
  obtain ⟨hcommand, value, hvalue⟩ := hopens
  cases hcourse with
  | editOpened => exact ⟨rfl, rfl⟩
  | refused => cases hvalue
  | _ => cases hcommand

/-- The input stays as it is until it is dropped or shown anew. -/
lemma display_of_run {events : List Event} (hrun : Run first events last)
    (hkept : ∀ event ∈ events, ¬event.DropsInput ∧ ¬event.Opens .text) :
    last.display = first.display := by
  induction hrun with
  | nil => rfl
  | cons head tail ih =>
    obtain ⟨⟨hdrops, hopens⟩, hlater⟩ := List.forall_mem_cons.mp hkept
    cases inputStep_of_course (course_of_path head) with
    | kept hdisplay => exact (ih hlater).trans hdisplay
    | shown _ hshown => exact absurd hshown hopens
    | dropped _ _ hdropped => exact absurd hdropped hdrops

/-! ## Submitting a draft -/

variable {draft comment : String}

/-- With its panel open an edit comes to nothing, to a complaint about the comment, or to a
submission. -/
lemma proposedEdit_of_isOpen (hpanel : now.panels.isOpen .text = true) (draft comment : String) :
    now.proposedEdit draft comment =
      if now.text = draft then .ok none
      else (Comment.check comment .edit).map fun _ =>
        some ⟨now.annotationId, draft, comment, none⟩ := by
  obtain ⟨panel, hrequired⟩ := PanelSet.exists_require hpanel
  rw [View.proposedEdit, hrequired]
  by_cases hsame : now.text = draft
  · simp [isVacuousEdit, hsame, bind, Except.bind, pure, Except.pure]
  · cases Comment.check comment .edit <;>
      simp [isVacuousEdit, hsame, bind, Except.bind, pure, Except.pure, Except.map]

/-- The draft of an edit that has changed nothing is not sent. -/
lemma path_submitEdit_unchanged_iff (hpanel : now.panels.isOpen .text = true)
    (hsame : now.text = draft) (comment : String) :
    Path ((Command.submitEdit draft comment).operation now) exchanges (result, next) ↔
      exchanges = [] ∧ result = .ok (.edit .unchanged) ∧ next = now := by
  have hedit := proposedEdit_of_isOpen hpanel draft comment
  rw [if_pos hsame] at hedit
  constructor
  · intro hpath
    cases course_of_path hpath with
    | editUnchanged => exact ⟨rfl, rfl, rfl⟩
    | refused hcheck => rw [Command.check, hedit] at hcheck; cases hcheck
    | editFailed hother => rw [hedit] at hother; cases hother
    | editSaved hother => rw [hedit] at hother; cases hother
  · rintro ⟨rfl, rfl, rfl⟩
    exact path_of_course (.editUnchanged hedit)

/-- The draft of an edit that has changed something is sent if the comment is long enough. -/
lemma exists_submit_of_submitEdit (hpanel : now.panels.isOpen .text = true)
    (hother : now.text ≠ draft) (hcomment : 10 ≤ comment.length)
    (hpath : Path ((Command.submitEdit draft comment).operation now) exchanges (result, next)) :
    ∃ outcome rest, exchanges =
      ⟨⟨now.viewer, .submit ⟨now.annotationId, draft, comment, none⟩⟩, outcome⟩ :: rest := by
  have hlong : Comment.check comment .edit = .ok () := if_neg (Nat.not_lt.mpr hcomment)
  have hedit := proposedEdit_of_isOpen hpanel draft comment
  rw [if_neg hother, hlong, Except.map] at hedit
  cases course_of_path hpath with
  | refused hcheck => rw [Command.check, hedit] at hcheck; cases hcheck
  | editUnchanged hnone => rw [hedit] at hnone; cases hnone
  | editFailed hsent => rw [hedit] at hsent; cases hsent; exact ⟨_, _, rfl⟩
  | editSaved hsent => rw [hedit] at hsent; cases hsent; exact ⟨_, _, rfl⟩

end

/-! ## The theorem -/

section

variable {annotationId viewer text draft : String} {loading : List Exchange} {mounted now : View}
  {past : List Event}

/-- **What a draft is.**  While an edit is being written, after a mount and any commands, whatever
the backend answers, the untouched draft is the text as the acceptances up to the beginning of the
edit had left it, and the text is what the acceptances since have made of the draft.  As long as
the two are the same, submitting the draft sends nothing and changes nothing, whatever the comment;
as soon as they are not, it sends the draft as an edit with every comment that is long enough. -/
theorem draft_told_by_acceptances (hmount : Mounts annotationId viewer text loading mounted)
    (hpast : Run mounted past now) (hdraft : now.display = .editing draft) :
    (∃ earlier opening later, past = earlier ++ opening :: later ∧ opening.Opens .text ∧
      (∀ event ∈ later, ¬event.DropsInput ∧ ¬event.Opens .text) ∧
      draft = textAfter text (acceptances earlier) ∧
      now.text = textAfter draft (acceptances later)) ∧
    (now.text = draft → ∀ comment exchanges result next,
      Path ((Command.submitEdit draft comment).operation now) exchanges (result, next) ↔
        exchanges = [] ∧ result = .ok (.edit .unchanged) ∧ next = now) ∧
    (now.text ≠ draft → ∀ comment exchanges result next, 10 ≤ comment.length →
      Path ((Command.submitEdit draft comment).operation now) exchanges (result, next) →
      ∃ outcome rest, exchanges =
        ⟨⟨viewer, .submit ⟨annotationId, draft, comment, none⟩⟩, outcome⟩ :: rest) := by
  have hmounted := mountedAs_of_mounts hmount
  have hconsistent : now.Consistent annotationId viewer :=
    hpast.inv consistent_of_course hmounted.consistent
  have hsince := (edits_iff_since hmount hpast).mp ⟨draft, hdraft⟩
  have hpanel : now.panels.isOpen .text = true :=
    (isOpen_iff_since hmount hpast .text).mpr (hsince.mono fun _ => .inl)
  refine ⟨?_, fun hsame comment _ _ _ => path_submitEdit_unchanged_iff hpanel hsame comment, ?_⟩
  · obtain ⟨earlier, opening, later, rfl, hopens, hlater⟩ := hsince.exists_latest
    refine ⟨earlier, opening, later, rfl, hopens, hlater, ?_⟩
    obtain ⟨before, hearlier, hrun⟩ := Run.append_iff.mp hpast
    cases hrun with
    | cons head tail =>
      obtain ⟨hcopied, hkept⟩ := copied_of_opens (course_of_path head) hopens
      have hshown := (display_of_run tail hlater).trans hcopied
      rw [hdraft, Display.editing.injEq] at hshown
      obtain ⟨thread, notice, rfl⟩ := hmounted.fresh
      obtain ⟨hbefore, -⟩ := texts_of_run hearlier
      obtain ⟨hafter, -⟩ := texts_of_run tail
      rw [hkept, ← hshown] at hafter
      exact ⟨hshown.trans hbefore, hafter⟩
  · intro hother comment exchanges result next hcomment hpath
    rw [← hconsistent.viewer, ← hconsistent.annotationId]
    exact exists_submit_of_submitEdit hpanel hother hcomment hpath

end

/-- An edit is submitted as it was begun, and not even a comment is asked for. -/
theorem draft_unchanged_once_begun :
    Path ((Command.submitEdit "list files" "").operation begun) []
      (.ok (.edit .unchanged), begun) := by
  obtain ⟨-, hsame, -⟩ :=
    draft_told_by_acceptances mounts_reviewing (.cons path_begun (.nil begun)) rfl
  exact (hsame rfl "" [] _ begun).mpr ⟨rfl, rfl, rfl⟩

/-- An update is accepted while an edit is being written: the draft that was given is no longer the
text, and submitting it as it is proposes to go back. -/
theorem untouched_draft_sent : ∃ loading events last,
    Mounts "A1" "author" "list files" loading reviewing ∧ Run reviewing events last ∧
      last.display = .editing "list files" ∧ last.text = "list all files" ∧
      ∃ lookUps next, Path ((Command.submitEdit "list files" "left as it was").operation last)
        (⟨⟨"author", .submit ⟨"A1", "list files", "left as it was", none⟩⟩,
          .answered ⟨"U2", "author", "t2"⟩⟩ :: lookUps) (.ok (.edit (.submitted 1)), next) := by
  have hactionable : begun.actionable 0 .accept = .ok ⟨0, ⟨"U1", "judge", "t1", "list all files",
      "lists hidden files too", .judger⟩, some .opened, false⟩ := by rfl
  have haccepted := path_of_course (.accepted hactionable ⟨"list all files", none⟩)
  have hedit : (begun.accepted 0 ⟨"list all files", none⟩).proposedEdit "list files"
      "left as it was" = .ok (some ⟨"A1", "list files", "left as it was", none⟩) := by rfl
  exact ⟨_, _, _, mounts_reviewing, .cons path_begun (.cons haccepted (.nil _)), rfl, rfl, _, _,
    path_of_course (.editSaved hedit rfl (.recorded .opened))⟩

end AnnotationReview.Review
