import AnnotationReview.Proofs.Resolution
import AnnotationReview.Proofs.Submission

/-!
# When an edit may be written

The control that starts an edit is one switch of the view.  A saved edit turns it off, and it is
turned on again by the next acceptance or withdrawal; so whether an edit may be written is told by
the events since the mount (`edit_refused_iff`).  The switch does not know which entry it stands
for: the decision on another update turns it on as well, and an edit that is found rejected or
accepted leaves it off (`edit_switch_not_of_proposal`).
-/

namespace AnnotationReview.Review

open Backend.Dialogue (Exchange Path)

/-- Some entry, whichever it is, was accepted or taken back. -/
def Event.Releases (event : Event) : Prop :=
  ∃ index, event.Withdraws index

/-- An edit was saved, and no entry was accepted or taken back since. -/
def Pending (events : List Event) : Prop :=
  ∃ past proposing future, events = past ++ proposing :: future ∧ proposing.Submits .text ∧
    ∀ event ∈ future, ¬event.Releases

section

variable {now next : View} {command : Command} {exchanges : List Exchange}
  {result : Except Error CommandResult}

/-! ## One command -/

/-- The look-up of a status leaves the switch alone. -/
lemma LookUp.editOffered_settled {base after : View} {index : UInt32} {entry : Entry}
    {lookUps : List Exchange} {ending : Ending (Option Status)}
    (hlookUp : LookUp base index entry lookUps ending after) :
    (ending.settled after).editOffered = base.editOffered := by
  obtain ⟨status?, notice, hsettled, -⟩ := hlookUp.exists_settled
  rw [hsettled]

/-- A saved edit turns the switch off. -/
lemma editOffered_of_submits (hcourse : Course now command exchanges result next)
    (hsubmits : (⟨command, exchanges, result⟩ : Event).Submits .text) :
    next.editOffered = false := by
  obtain ⟨hsome, origin, hkey⟩ := hsubmits
  cases hcourse with
  | editSaved hedit hget hlookUp => exact hlookUp.editOffered_settled
  | refused => exact absurd rfl hsome
  | editUnchanged => exact absurd rfl hsome
  | editFailed hedit hfailure => exact absurd (deposits_of_failure hfailure) hsome
  | _ => cases hkey

/-- An acceptance or a withdrawal turns it on. -/
lemma editOffered_of_releases (hcourse : Course now command exchanges result next)
    (hreleases : (⟨command, exchanges, result⟩ : Event).Releases) : next.editOffered = true := by
  obtain ⟨index, hcommand, value, hresult⟩ := hreleases
  obtain rfl : result = .ok value := hresult
  rcases hcommand with hcommand | hcommand
  · obtain rfl : command = .accept index := hcommand
    cases hcourse with
    | accepted => rfl
  · obtain rfl : command = .retract index := hcommand
    cases hcourse with
    | retracted => rfl

/-- Nothing else touches it. -/
lemma editOffered_of_course (hcourse : Course now command exchanges result next)
    (hsubmits : ¬(⟨command, exchanges, result⟩ : Event).Submits .text)
    (hreleases : ¬(⟨command, exchanges, result⟩ : Event).Releases) :
    next.editOffered = now.editOffered := by
  cases hcourse with
  | editSaved => exact absurd ⟨by simp [Event.deposits], .judger, rfl⟩ hsubmits
  | accepted => exact absurd ⟨_, .inl rfl, _, rfl⟩ hreleases
  | retracted => exact absurd ⟨_, .inr rfl, _, rfl⟩ hreleases
  | refreshed hget hlookUp => exact hlookUp.editOffered_settled
  | rejectionSaved hreply rejected hget hlookUp =>
    refine hlookUp.editOffered_settled.trans ?_
    cases rejected <;> rfl
  | _ => rfl

/-- An edit may be written where the switch is on. -/
lemma result_of_openEditPanel {target : EditTarget} {placeholder : String}
    (hcourse : Course now (.openEditPanel target placeholder) exchanges result next) :
    result = if now.editOffered then .ok .done else
      .error (.domain (.conflict "An edit of this annotation is already awaiting review")) := by
  cases hcourse with
  | editOpened hoffered => rw [if_pos hoffered]
  | refused hcheck =>
    simp only [Command.check, View.openEditPanel] at hcheck
    split at hcheck
    next => cases hcheck
    next hrefused =>
      cases hcheck
      rw [if_neg hrefused]

/-! ## A run -/

/-- The switch is off at the end of a run if an edit is pending, or if it was off and nothing has
turned it on. -/
lemma editOffered_of_run {first last : View} {events : List Event} (hrun : Run first events last) :
    last.editOffered = false ↔
      Pending events ∨ first.editOffered = false ∧ ∀ event ∈ events, ¬event.Releases := by
  show _ ↔ Since (·.Submits .text) Event.Releases events ∨ _
  refine hrun.since_iff (P := (·.editOffered = false)) (I := fun _ => True) (fun _ _ => trivial)
    ?_ trivial
  intro now next command exchanges result hcourse _
  by_cases hsubmits : (⟨command, exchanges, result⟩ : Event).Submits .text
  · have hoff := editOffered_of_submits hcourse hsubmits
    simp [hoff, hsubmits]
  · by_cases hreleases : (⟨command, exchanges, result⟩ : Event).Releases
    · have hon := editOffered_of_releases hcourse hreleases
      simp [hon, hsubmits, hreleases]
    · simp [editOffered_of_course hcourse hsubmits hreleases, hsubmits, hreleases]

end

/-- **When an edit is refused.**  After a mount and any commands, whatever the backend answers, the
attempt to write an edit is refused as a conflict exactly if an edit was saved since the mount and
no entry, its own or another, was accepted or taken back since; otherwise it succeeds. -/
theorem edit_refused_iff {annotationId viewer text placeholder : String} {target : EditTarget}
    {loading exchanges : List Exchange} {mounted last next : View} {events : List Event}
    {result : Except Error CommandResult}
    (hmount : Mounts annotationId viewer text loading mounted) (hrun : Run mounted events last)
    (hopen : Path ((Command.openEditPanel target placeholder).operation last) exchanges
      (result, next)) :
    (result = .error (.domain (.conflict
        "An edit of this annotation is already awaiting review")) ↔ Pending events) ∧
      (result = .ok .done ↔ ¬Pending events) := by
  have hmounted : mounted.editOffered = true := by
    obtain ⟨thread, notice, rfl⟩ := (mountedAs_of_mounts hmount).fresh
    rfl
  have hswitch : last.editOffered = false ↔ Pending events := by
    simpa [hmounted] using editOffered_of_run hrun
  rw [result_of_openEditPanel (course_of_path hopen), ← hswitch]
  cases last.editOffered <;> simp

/-- While the edit that was saved awaits review, no other is begun. -/
theorem edit_refused_while_pending : Pending
    [⟨.openEditPanel .naturalLanguage "Why?", [], .ok .done⟩,
      ⟨.submitEdit "list all files" "hidden ones too",
        [⟨⟨"author", .submit ⟨"A1", "list all files", "hidden ones too", none⟩⟩,
          .answered ⟨"U1", "author", "t1"⟩⟩, ⟨⟨"author", .statusOf "U1"⟩, .answered "open"⟩],
        .ok (.edit (.submitted 0))⟩] := by
  have hmount := mounts_without_updates "A1" "author" "list files"
  have hrun : Run (.fresh "A1" "author" "list files") [_, _] proposed :=
    .cons path_editing (.cons path_proposed (.nil proposed))
  have hrefused : Path ((Command.openEditPanel .command "Again?").operation proposed) []
      (.error (.domain (.conflict "An edit of this annotation is already awaiting review")), _) :=
    path_of_course (.refused rfl)
  exact (edit_refused_iff hmount hrun hrefused).1.mp rfl

/-! ## The switch and the proposal -/

/-- An entry that one of the events has appended as an edit is there, and it is not known to be
decided. -/
def AwaitsReview (events : List Event) (view : View) : Prop :=
  ∃ event ∈ events, ∃ index, event.result = .ok (.edit (.submitted index)) ∧
    ∃ entry ∈ view.thread.entries, entry.index = index ∧
      (entry.status = none ∨ entry.status = some .opened)

/-- An edit awaits review beside the update of a judge. -/
def contested : View :=
  { proposed with
    thread := ⟨reviewing.thread.entries ++ [⟨1, ⟨"U2", "author", "t2", "list all files",
      "hidden ones too", .judger⟩, some .opened, false⟩], 2⟩ }

/-- The switch is not the proposal's: once the update of a judge is accepted another edit may be
written although the first awaits review, and once an edit is found rejected none may be written
although none awaits review. -/
theorem edit_switch_not_of_proposal :
    (∃ loading events last next, Mounts "A1" "author" "list files" loading reviewing ∧
      Run reviewing events last ∧ AwaitsReview events last ∧
      last.openEditPanel .naturalLanguage "Why?" = .ok next) ∧
    (∃ loading mounted events last, Mounts "A1" "author" "list files" loading mounted ∧
      Run mounted events last ∧ ¬AwaitsReview events last ∧
      last.openEditPanel .naturalLanguage "Why?" =
        .error (.conflict "An edit of this annotation is already awaiting review")) := by
  constructor
  · have hedit : View.proposedEdit { editing with thread := reviewing.thread } "list all files"
        "hidden ones too" = .ok (some ⟨"A1", "list all files", "hidden ones too", none⟩) := rfl
    have hopened : Path ((Command.openEditPanel .naturalLanguage "Why?").operation reviewing) []
        (.ok .done, { editing with thread := reviewing.thread }) := path_of_course (.editOpened rfl)
    have hproposed : Path ((Command.submitEdit "list all files" "hidden ones too").operation
        { editing with thread := reviewing.thread })
        [⟨⟨"author", .submit ⟨"A1", "list all files", "hidden ones too", none⟩⟩,
          .answered ⟨"U2", "author", "t2"⟩⟩, ⟨⟨"author", .statusOf "U2"⟩, .answered "open"⟩]
        (.ok (.edit (.submitted 1)), contested) :=
      path_of_course (.editSaved hedit rfl (.recorded .opened))
    have hactionable : contested.actionable 0 .accept =
        .ok ⟨0, ⟨"U1", "judge", "t1", "list all files", "lists hidden files too", .judger⟩,
          some .opened, false⟩ := by rfl
    have haccepted := path_of_course (.accepted hactionable ⟨"list all files", none⟩)
    refine ⟨_, _, contested.accepted 0 ⟨"list all files", none⟩, _, mounts_reviewing,
      .cons hopened (.cons hproposed (.cons haccepted (.nil _))), ?_, rfl⟩
    exact ⟨_, List.mem_cons_of_mem _ List.mem_cons_self, 1, rfl, ⟨1, _, some .opened, false⟩,
      List.mem_cons_of_mem _ List.mem_cons_self, rfl, .inr rfl⟩
  · have hget : proposed.thread.get 0 = .ok ⟨0, ⟨"U1", "author", "t1", "list all files",
        "hidden ones too", .judger⟩, some .opened, false⟩ := by rfl
    have hrejected : Path ((Command.refreshStatus 0).operation proposed) _
        (_, proposed.recording 0 .rejected) :=
      path_of_course (.refreshed hget (.recorded .rejected))
    refine ⟨_, _, _, _, mounts_without_updates "A1" "author" "list files",
      .cons path_editing (.cons path_proposed (.cons hrejected (.nil _))), ?_, rfl⟩
    rintro ⟨event, -, index, -, entry, hmem, -, hstatus⟩
    obtain rfl := List.mem_singleton.mp hmem
    rcases hstatus with hstatus | hstatus <;> cases hstatus

end AnnotationReview.Review
