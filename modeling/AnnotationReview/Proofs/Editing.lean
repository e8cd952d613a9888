import AnnotationReview.Proofs.Panel
import AnnotationReview.Proofs.Resolution
import AnnotationReview.Proofs.Submission

/-!
# The edit input and its panel

An edit is written in two places: in the input that takes the place of the text, and in the panel
that asks for the reason.  One command opens both, and each is told by the events since the mount.
A panel, whatever its place, is open where it was opened and not closed since.  The input is gone
with its panel, and it is also gone with the next reply that rejects an entry, which takes the view
back to its text and leaves the panel of the edit open (`edit_panel_outlives_input`).  So an input
never stands without its panel, but a panel may stand without an input
(`edit_shown_iff`).
-/

namespace AnnotationReview

/-- The text is being edited. -/
def View.Edits (view : View) : Prop :=
  ∃ draft, view.display = .editing draft

namespace PanelSet

variable {panels : PanelSet} {panel : Panel} {key other : PanelKey}

/-- A panel that is opened leaves all others open. -/
lemma isOpen_insert : (panels.insert panel).2.isOpen key = true ↔
    panel.key = key ∨ panels.isOpen key = true := by
  rw [isOpen_iff, isOpen_iff, toList_insert]
  constructor
  · rintro ⟨found, hmem, rfl⟩
    rcases List.mem_append.mp hmem with hmem | hmem
    · exact .inr ⟨found, List.mem_of_mem_eraseP hmem, rfl⟩
    · exact .inl (congrArg Panel.key (List.mem_singleton.mp hmem).symm)
  · rintro (rfl | ⟨found, hmem, rfl⟩)
    · exact ⟨panel, by simp, rfl⟩
    · by_cases hsame : found.key = panel.key
      · exact ⟨panel, by simp, hsame.symm⟩
      · refine ⟨found, List.mem_append_left _ ?_, rfl⟩
        exact (List.mem_eraseP_of_neg (by simpa using hsame)).mpr hmem

/-- Closing the panel at a place leaves all others open. -/
lemma Orderly.isOpen_close (horderly : panels.Orderly) :
    (panels.close other).2.isOpen key = true ↔ panels.isOpen key = true ∧ other ≠ key := by
  rw [isOpen_iff, isOpen_iff]
  constructor
  · rintro ⟨found, hmem, rfl⟩
    exact ⟨⟨found, mem_of_mem_close hmem, rfl⟩, (horderly.distinct.key_ne_of_mem_close hmem).symm⟩
  · rintro ⟨⟨found, hmem, rfl⟩, hother⟩
    exact ⟨found, (List.mem_eraseP_of_neg (by simpa using hother.symm)).mpr hmem, rfl⟩

/-- A panel explains an edit where it stands at the text. -/
lemma Orderly.isSome_target?_iff (horderly : panels.Orderly)
    (hpanel : panels.get? key = some panel) : panel.kind.target?.isSome = true ↔ key = .text := by
  have hfits := horderly.fits panel (mem_of_get? hpanel)
  rw [Panel.Fits, key_of_get? hpanel] at hfits
  rw [hfits]
  cases panel.kind <;> simp [PanelKind.target?]

end PanelSet

namespace Review

open Backend.Dialogue (Exchange Path)

/-! ## One command -/

/-- The panel that a command gives up. -/
def Command.cancels? : Command → Option PanelKey
  | .cancelEditPanel => some .text
  | .cancelRejectionPanel index => some (.entry index)
  | _ => none

namespace Event

/-- The panel at a place was closed: it was given up, what was written in it was saved, or its entry
was accepted or taken back. -/
def Closes (key : PanelKey) (event : Event) : Prop :=
  (event.command.cancels? = some key ∧ ∃ value, event.result = .ok value) ∨ event.Submits key ∨
    ∃ index, key = .entry index ∧ event.Withdraws index

/-- What has failed without saving anything closes no panel. -/
lemma not_closes_of_error {key : PanelKey} {event : Event} {error : Error}
    (hresult : event.result = .error error) (hdeposits : event.deposits = []) :
    ¬event.Closes key := by
  rintro (⟨-, value, hvalue⟩ | ⟨hsome, -⟩ | ⟨index, -, -, value, hvalue⟩)
  · cases hresult.symm.trans hvalue
  · exact hsome hdeposits
  · cases hresult.symm.trans hvalue

/-- A reply was saved that rejects an entry. -/
def Replies (event : Event) : Prop :=
  ∃ index, event.Submits (.entry index)

/-- The input of the edit was dropped. -/
def DropsInput (event : Event) : Prop :=
  event.Closes .text ∨ event.Replies

lemma not_dropsInput_of_error {event : Event} {error : Error}
    (hresult : event.result = .error error) (hdeposits : event.deposits = []) :
    ¬event.DropsInput := by
  rintro (hcloses | ⟨index, hsome, -⟩)
  · exact not_closes_of_error hresult hdeposits hcloses
  · exact hsome hdeposits

end Event

section

variable {now next : View} {command : Command} {exchanges : List Exchange}
  {result : Except Error CommandResult} {key : PanelKey}

/-- What an event does to the panels: nothing, or one of them is closed, or one is opened. -/
inductive Event.PanelStep (now : View) (event : Event) (next : View) : Prop where
  | kept (hpanels : next.panels = now.panels) (hopens : ∀ key, ¬event.Opens key)
      (hcloses : ∀ key, ¬event.Closes key)
  | closed {place : PanelKey} (hpanels : next.panels = (now.panels.close place).2)
      (hopens : ∀ key, ¬event.Opens key) (hcloses : ∀ key, event.Closes key ↔ place = key)
  | opened {panel : Panel} (hpanels : next.panels = (now.panels.insert panel).2)
      (hopens : ∀ key, event.Opens key ↔ panel.key = key) (hcloses : ∀ key, ¬event.Closes key)

attribute [local simp] Event.Opens Event.Closes Event.Submits Event.Withdraws Command.opens?
  Command.cancels? Command.submits? Event.deposits

/-- What a command does to the panels. -/
lemma panelStep_of_course (hcourse : Course now command exchanges result next) :
    (⟨command, exchanges, result⟩ : Event).PanelStep now next := by
  cases hcourse with
  | rejectionOpened => exact .opened rfl (by simp) (by simp)
  | rejectionStarted => exact .opened rfl (by simp) (by simp)
  | editOpened => exact .opened rfl (by simp) (by simp)
  | rejectionCancelled => exact .closed rfl (by simp) (by simp)
  | editCancelled => exact .closed rfl (by simp) (by simp)
  | accepted => exact .closed rfl (by simp) fun _ => by simpa using eq_comm
  | retracted => exact .closed rfl (by simp) fun _ => by simpa using eq_comm
  | refreshed hget hlookUp => exact .kept hlookUp.panels_settled (by simp) (by simp)
  | editSaved hedit hget hlookUp =>
    exact .closed hlookUp.panels_settled (by simp) (by simp)
  | @rejectionSaved index _ _ _ _ _ _ ending after hreply rejected hget hlookUp =>
    have hpanels : (ending.settled after).panels = (now.panels.close (.entry index)).2 := by
      rw [hlookUp.panels_settled]
      cases rejected <;> rfl
    exact .closed hpanels (by simp) (by simp)
  | editFailed hedit hfailure =>
    exact .kept rfl (by simp) fun _ => Event.not_closes_of_error rfl (deposits_of_failure hfailure)
  | rejectionFailed hreply rejected hfailure =>
    exact .kept rfl (by simp) fun _ =>
      Event.not_closes_of_error rfl (deposits_of_unsaved_reply _ _ _ rejected hfailure)
  | _ => exact .kept rfl (by simp) (by simp)

/-- What a command does to the panel at a place. -/
lemma isOpen_of_course (hcourse : Course now command exchanges result next)
    (horderly : now.panels.Orderly) :
    next.panels.isOpen key = true ↔ (⟨command, exchanges, result⟩ : Event).Opens key ∨
      now.panels.isOpen key = true ∧ ¬(⟨command, exchanges, result⟩ : Event).Closes key := by
  cases panelStep_of_course hcourse with
  | kept hpanels hopens hcloses => simp only [hpanels, hopens key, hcloses key]; tauto
  | closed hpanels hopens hcloses =>
    rw [hpanels, horderly.isOpen_close, hcloses key]
    simp only [hopens key]
    tauto
  | opened hpanels hopens hcloses =>
    rw [hpanels, PanelSet.isOpen_insert, hopens key]
    simp only [hcloses key]
    tauto

/-- The look-up of a status leaves the display alone. -/
lemma LookUp.display_settled {base after : View} {index : UInt32} {entry : Entry}
    {lookUps : List Exchange} {ending : Ending (Option Status)}
    (hlookUp : LookUp base index entry lookUps ending after) :
    (ending.settled after).display = base.display := by
  obtain ⟨status?, notice, hsettled, -⟩ := hlookUp.exists_settled
  rw [hsettled]

/-- What an event does to the input: nothing, or it is shown with the present text, or it is
dropped. -/
inductive Event.InputStep (now : View) (event : Event) (next : View) : Prop where
  | kept (hdisplay : next.display = now.display) (hopens : ¬event.Opens .text)
      (hdrops : ¬event.DropsInput)
  | shown (hdisplay : next.display = .editing now.text) (hopens : event.Opens .text)
  | dropped (hdisplay : next.display = .viewing) (hopens : ¬event.Opens .text)
      (hdrops : event.DropsInput)

attribute [local simp] Event.DropsInput Event.Replies

/-- What a command does to the input. -/
lemma inputStep_of_course (hcourse : Course now command exchanges result next) :
    (⟨command, exchanges, result⟩ : Event).InputStep now next := by
  cases hcourse with
  | editOpened => exact .shown rfl (by simp)
  | editCancelled => exact .dropped rfl (by simp) (by simp)
  | refreshed hget hlookUp => exact .kept hlookUp.display_settled (by simp) (by simp)
  | editSaved hedit hget hlookUp => exact .dropped hlookUp.display_settled (by simp) (by simp)
  | @rejectionSaved index _ _ _ _ _ _ ending after hreply rejected hget hlookUp =>
    have hdisplay : (ending.settled after).display = .viewing := by
      rw [hlookUp.display_settled]
      cases rejected <;> rfl
    exact .dropped hdisplay (by simp) (by simp)
  | editFailed hedit hfailure =>
    exact .kept rfl (by simp) (Event.not_dropsInput_of_error rfl (deposits_of_failure hfailure))
  | rejectionFailed hreply rejected hfailure =>
    exact .kept rfl (by simp)
      (Event.not_dropsInput_of_error rfl (deposits_of_unsaved_reply _ _ _ rejected hfailure))
  | _ => exact .kept rfl (by simp) (by simp)

/-- Whether the text is edited after a command. -/
lemma edits_of_course (hcourse : Course now command exchanges result next) :
    next.Edits ↔ (⟨command, exchanges, result⟩ : Event).Opens .text ∨
      now.Edits ∧ ¬(⟨command, exchanges, result⟩ : Event).DropsInput := by
  unfold View.Edits
  cases inputStep_of_course hcourse with
  | kept hdisplay hopens hdrops => rw [hdisplay]; tauto
  | shown hdisplay hopens => exact iff_of_true ⟨_, hdisplay⟩ (.inl hopens)
  | dropped hdisplay hopens hdrops =>
    rw [hdisplay]
    refine iff_of_false (by simp) ?_
    rintro (h | ⟨-, h⟩)
    · exact hopens h
    · exact h hdrops

end

end Review

/-! ## In the markup -/

namespace Markup

/-- The tag opens the input in which the text is edited. -/
def Tag.isEditInput (tag : Tag) : Bool :=
  tag.name == "input" && tag.value? "class" == some "form-control nl-submission-edit-input"

/-- The tag opens the button that submits the edit. -/
def Tag.isEditSubmit (tag : Tag) : Bool :=
  tag.name == "button" && tag.value? "data-action" == some "submit_edit"

variable {view : View} {p : Tag → Bool}

/-- Of the tags of an entry only those of its buttons and of its panel are told apart. -/
lemma any_entryNode (view : View) (hp : ∀ name attributes, name ≠ "input" → name ≠ "button" →
      p ⟨name, attributes⟩ = false)
    (controls : Controls) (entry : Entry) : (entryNode view controls entry).tags.any p =
      ((Node.tagsAll (controlNodes entry.index controls)).any p ||
        (Node.tagsAll (panelNodes (view.panels.get? (.entry entry.index)))).any p) := by
  unfold entryNode
  cases view.panels.get? (.entry entry.index) <;>
    simp [panelNodes, block, Node.tags, Node.tagsAll, Node.tagsAll_append, hp]

/-- Of the other tags of an annotation only those of its text and of its panel are. -/
lemma any_annotationNode (hp : ∀ name attributes, name ≠ "input" → name ≠ "button" →
      p ⟨name, attributes⟩ = false) (hnotice : ∀ notice, (noticeNode notice).tags.any p = false)
    (hentries : ∀ entry, (entryNode view (view.controls entry) entry).tags.any p = false) :
    (annotationNode view).tags.any p = ((Node.tagsAll (submissionNodes view)).any p ||
      (Node.tagsAll (panelNodes (editPanel? view))).any p) := by
  have hnotices : (Node.tagsAll (noticeNodes view.notice)).any p = false := by
    cases view.notice with
    | none => rfl
    | some notice => simpa [noticeNodes, Node.tagsAll] using hnotice notice
  have hthread : (view.thread.visible.flatMap fun entry =>
      (entryNode view (view.controls entry) entry).tags).any p = false := by
    rw [List.any_flatMap, List.any_eq_false]
    simp [hentries]
  rw [tags_annotationNode_parts]
  simp [hp, hnotices, hthread]

/-- The input is shown where the text is edited. -/
lemma any_isEditInput : (annotationNode view).tags.any Tag.isEditInput = true ↔ view.Edits := by
  have hpanels : ∀ panel? : Option Panel,
      (Node.tagsAll (panelNodes panel?)).any Tag.isEditInput = false := by
    intro panel?
    cases panel? <;> simp [panelNodes, panelNode, Node.tags, Node.tagsAll, Tag.isEditInput]
  have hcontrols : ∀ index controls,
      (Node.tagsAll (controlNodes index controls)).any Tag.isEditInput = false := by
    intro index controls
    cases controls <;> simp [controlNodes, entryButton, Node.tags, Node.tagsAll, Tag.isEditInput]
  have hp : ∀ name attributes, name ≠ "input" → name ≠ "button" →
      Tag.isEditInput ⟨name, attributes⟩ = false := by
    simp_all [Tag.isEditInput]
  have hentries := fun entry => any_entryNode view hp (view.controls entry) entry
  simp only [hpanels, hcontrols, Bool.or_false] at hentries
  rw [any_annotationNode hp (by simp [noticeNode, Node.tags, Node.tagsAll, Tag.isEditInput])
    hentries, hpanels, Bool.or_false]
  unfold submissionNodes View.Edits
  cases view.display with
  | editing draft => simp [attr, Node.tags, Node.tagsAll, Tag.isEditInput, Tag.value?]
  | viewing =>
    cases view.previousText <;> cases view.editOffered <;>
      simp [block, Node.tags, Node.tagsAll, Tag.isEditInput]

/-- The edit can be submitted where its panel is open. -/
lemma any_isEditSubmit (horderly : view.panels.Orderly) :
    (annotationNode view).tags.any Tag.isEditSubmit = true ↔ view.panels.isOpen .text = true := by
  have hpanels : ∀ panel? : Option Panel,
      (Node.tagsAll (panelNodes panel?)).any Tag.isEditSubmit =
        panel?.any (·.kind.target?.isSome) := by
    rintro (_ | ⟨key, kind, placeholder⟩)
    · rfl
    · cases kind <;> simp [panelNodes, panelNode, buttonAttributes, attr, Node.tags, Node.tagsAll,
        Tag.isEditSubmit, Tag.value?, PanelKind.target?]
  have hcontrols : ∀ index controls,
      (Node.tagsAll (controlNodes index controls)).any Tag.isEditSubmit = false := by
    intro index controls
    cases controls <;> simp [controlNodes, entryButton, buttonAttributes, attr, Node.tags,
      Node.tagsAll, Tag.isEditSubmit, Tag.value?]
  have hsubmission : (Node.tagsAll (submissionNodes view)).any Tag.isEditSubmit = false := by
    unfold submissionNodes
    cases view.display with
    | editing draft => simp [Node.tags, Node.tagsAll, Tag.isEditSubmit]
    | viewing =>
      cases view.previousText <;> cases view.editOffered <;>
        simp [block, buttonAttributes, attr, Node.tags, Node.tagsAll, Tag.isEditSubmit, Tag.value?]
  -- a panel that stands at an entry explains a rejection
  have hrejections : ∀ index,
      (view.panels.get? (.entry index)).any (·.kind.target?.isSome) = false := by
    intro index
    cases hpanel : view.panels.get? (.entry index) with
    | none => rfl
    | some panel => simpa using mt (horderly.isSome_target?_iff hpanel).mp (by simp)
  have hp : ∀ name attributes, name ≠ "input" → name ≠ "button" →
      Tag.isEditSubmit ⟨name, attributes⟩ = false := by
    simp_all [Tag.isEditSubmit]
  have hentries := fun entry => any_entryNode view hp (view.controls entry) entry
  simp only [hpanels, hcontrols, hrejections, Bool.or_false] at hentries
  rw [any_annotationNode hp (by simp [noticeNode, buttonAttributes, attr, Node.tags, Node.tagsAll,
    Tag.isEditSubmit, Tag.value?]) hentries, hsubmission, Bool.false_or, hpanels,
    editPanel?_eq_get? horderly, PanelSet.isOpen]
  cases hpanel : view.panels.get? .text with
  | none => simp
  | some panel => simpa using (horderly.isSome_target?_iff hpanel).mpr rfl

end Markup

/-! ## The theorem -/

namespace Review

open Backend.Dialogue (Exchange Path)
open Markup

section

variable {annotationId viewer text : String} {loading : List Exchange} {mounted now : View}
  {past : List Event}

lemma edits_iff_since (hmount : Mounts annotationId viewer text loading mounted)
    (hpast : Run mounted past now) :
    now.Edits ↔ Since (·.Opens .text) Event.DropsInput past := by
  have hmounted : ¬mounted.Edits := by
    obtain ⟨thread, notice, rfl⟩ := (mountedAs_of_mounts hmount).fresh
    rintro ⟨draft, ⟨⟩⟩
  have hswitch := hpast.since_iff (I := fun _ => True) (fun _ _ => trivial)
    (fun hcourse _ => edits_of_course hcourse) trivial
  simpa [hmounted] using hswitch

lemma isOpen_iff_since (hmount : Mounts annotationId viewer text loading mounted)
    (hpast : Run mounted past now) (key : PanelKey) :
    now.panels.isOpen key = true ↔ Since (·.Opens key) (·.Closes key) past := by
  have hmounted := mountedAs_of_mounts hmount
  have hclosed : ¬mounted.panels.isOpen key = true := by
    obtain ⟨thread, notice, rfl⟩ := hmounted.fresh
    exact Bool.false_ne_true
  have hswitch := hpast.since_iff (I := (·.Consistent annotationId viewer))
    (P := (·.panels.isOpen key = true)) consistent_of_course
    (fun hcourse hnow => isOpen_of_course hcourse hnow.panels) hmounted.consistent
  simpa [hclosed] using hswitch

/-- **Where an edit is shown.**  After a mount and any commands, whatever the backend answers, the
text is being edited exactly if the edit was begun since the mount and since then neither its panel
was closed nor a reply saved that rejects an entry; and the panel at a place is open exactly if it
was opened since the mount and not closed since.  The markup shows the input and the button that
submits the edit accordingly.  So the input is never shown without its panel. -/
theorem edit_shown_iff (hmount : Mounts annotationId viewer text loading mounted)
    (hpast : Run mounted past now) :
    (now.Edits ↔ Since (·.Opens .text) Event.DropsInput past) ∧
      (∀ key, now.panels.isOpen key = true ↔ Since (·.Opens key) (·.Closes key) past) ∧
      (now.Edits → now.panels.isOpen .text = true) ∧
      ∃ tags, tags? now.render = some tags ∧ (tags.any Tag.isEditInput = true ↔ now.Edits) ∧
        (tags.any Tag.isEditSubmit = true ↔ now.panels.isOpen .text = true) := by
  have hedits := edits_iff_since hmount hpast
  have hopen := isOpen_iff_since hmount hpast
  have hconsistent : now.Consistent annotationId viewer :=
    hpast.inv consistent_of_course (mountedAs_of_mounts hmount).consistent
  refine ⟨hedits, hopen, ?_, _, tags?_render now, any_isEditInput,
    any_isEditSubmit hconsistent.panels⟩
  intro hshown
  exact (hopen .text).mpr ((hedits.mp hshown).mono fun _ => .inl)

end

/-- Once an edit is begun its input and its button are there. -/
theorem edit_shown_while_editing : editing.Edits ∧ editing.panels.isOpen .text = true ∧
    ∃ tags, tags? editing.render = some tags ∧ tags.any Tag.isEditInput = true ∧
      tags.any Tag.isEditSubmit = true := by
  obtain ⟨hedits, hopen, hpanel, tags, htags, hinput, hsubmit⟩ :=
    edit_shown_iff (mounts_without_updates "A1" "author" "list files")
      (.cons path_editing (.nil editing))
  have hbegun : editing.Edits :=
    hedits.mpr ⟨[], _, [], rfl, ⟨rfl, _, rfl⟩, fun _ hmem => absurd hmem List.not_mem_nil⟩
  exact ⟨hbegun, hpanel hbegun, tags, htags, hinput.mpr hbegun, hsubmit.mpr (hpanel hbegun)⟩

/-- An edit is begun beside the open update of a judge. -/
def begun : View :=
  { reviewing with
    display := .editing "list files"
    panels := ⟨[⟨.text, .changeAndComment .naturalLanguage, "Why?"⟩]⟩ }

/-- Then the update is to be rejected. -/
def composing : View :=
  { begun with
    panels := ⟨[⟨.text, .changeAndComment .naturalLanguage, "Why?"⟩,
      ⟨.entry 0, .rejection, "why?"⟩]⟩ }

lemma path_begun : Path ((Command.openEditPanel .naturalLanguage "Why?").operation reviewing) []
    (.ok .done, begun) :=
  path_of_course (.editOpened rfl)

lemma path_composing : Path ((Command.openRejectionPanel 0 "why?").operation begun) []
    (.ok .done, composing) := by
  have hactionable : begun.actionable 0 .reject = .ok ⟨0, ⟨"U1", "judge", "t1", "list all files",
      "lists hidden files too", .judger⟩, some .opened, false⟩ := by rfl
  exact path_of_course (.rejectionOpened hactionable)

/-- The input goes with the reply, and the panel stays: the edit can be submitted, but there is
nothing to edit. -/
theorem edit_panel_outlives_input : ∃ loading events last,
    Mounts "A1" "author" "list files" loading reviewing ∧ Run reviewing events last ∧
      last.panels.isOpen .text = true ∧ last.display = .viewing ∧
      ∃ tags, tags? last.render = some tags ∧ tags.any Tag.isEditSubmit = true ∧
        tags.any Tag.isEditInput = false := by
  have hreply : composing.rejectionReply 0 "hidden files are noise" =
      .ok ("U1", ⟨"A1", "list files", "hidden files are noise", some "U1"⟩) := by rfl
  have hsaved : Path ((Command.submitRejection 0 "hidden files are noise").operation composing)
      [⟨⟨"author", .reject "U1"⟩, .answered ()⟩,
        ⟨⟨"author", .submit ⟨"A1", "list files", "hidden files are noise", some "U1"⟩⟩,
          .answered ⟨"U2", "author", "t2"⟩⟩, ⟨⟨"author", .statusOf "U2"⟩, .answered "open"⟩]
      (.ok (.reply 1), _) :=
    path_of_course (.rejectionSaved hreply (.ok ()) rfl (.recorded .opened))
  have hrun := Run.cons path_begun (.cons path_composing (.cons hsaved (.nil _)))
  have hconsistent :=
    hrun.inv consistent_of_course (mountedAs_of_mounts mounts_reviewing).consistent
  refine ⟨_, _, _, mounts_reviewing, hrun, rfl, rfl, _, tags?_render _,
    (any_isEditSubmit hconsistent.panels).mpr rfl, ?_⟩
  rw [Bool.eq_false_iff, Ne, any_isEditInput]
  rintro ⟨draft, ⟨⟩⟩

end Review

end AnnotationReview
