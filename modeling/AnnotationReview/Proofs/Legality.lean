import AnnotationReview.Proofs.Run

/-!
# Only legal calls are put

Every call that asks the backend for a change is put on behalf of the viewer of the view, on an
entry that the viewer may act on, with a comment that is long enough, and for what the view shows
at that moment, since nothing is changed before the backend has answered (`only_legal_calls`).
Most of this is what the rules in front of the call have just checked.  One part is not checked
there and rests on the whole run: an edit is sent from an open panel, and that the control which
opens it is still offered is an invariant (`View.Consistent`).
-/

namespace AnnotationReview

/-! ## Panels -/

/-- The kind of a panel is the one that belongs to its place. -/
def Panel.Fits (panel : Panel) : Prop :=
  panel.key = .text ↔ panel.kind ≠ .rejection

namespace PanelSet

variable {panels : PanelSet} {panel : Panel} {key : PanelKey}

/-- At most one panel is open at a place, and each belongs where it is. -/
structure Orderly (panels : PanelSet) : Prop where
  keys : (panels.toList.map Panel.key).Nodup
  fits : ∀ panel ∈ panels.toList, panel.Fits

lemma orderly_empty : empty.Orderly :=
  ⟨List.nodup_nil, by simp⟩

namespace Orderly

lemma distinct (horderly : panels.Orderly) : panels.Distinct :=
  horderly.keys

lemma close (horderly : panels.Orderly) (key : PanelKey) : (panels.close key).2.Orderly :=
  ⟨horderly.distinct.close key, fun panel hmem => horderly.fits panel (mem_of_mem_close hmem)⟩

lemma insert (horderly : panels.Orderly) (hfits : panel.Fits) :
    (panels.insert panel).2.Orderly := by
  refine ⟨horderly.distinct.insert panel, ?_⟩
  intro other hmem
  rw [toList_insert, List.mem_append, List.mem_singleton] at hmem
  rcases hmem with hmem | rfl
  · exact horderly.fits other (mem_of_mem_close hmem)
  · exact hfits

end Orderly

end PanelSet

/-! ## The invariant -/

/-- The view is the viewer's view of the annotation, and an edit that is being written may still be
sent. -/
structure View.Consistent (annotationId viewer : String) (view : View) : Prop where
  annotationId : view.annotationId = annotationId
  viewer : view.viewer = viewer
  panels : view.panels.Orderly
  edit : ∀ panel ∈ view.panels.toList, panel.key = .text → view.editOffered = true

namespace View.Consistent

variable {annotationId viewer : String} {now : View}

/-- The invariant says nothing of the thread and the notice. -/
lemma noted (hnow : now.Consistent annotationId viewer) (thread : Thread)
    (notice : Option Notice) :
    View.Consistent annotationId viewer { now with thread, notice } :=
  ⟨hnow.annotationId, hnow.viewer, hnow.panels, hnow.edit⟩

lemma closePanel (hnow : now.Consistent annotationId viewer) (key : PanelKey) :
    (now.closePanel key).Consistent annotationId viewer :=
  ⟨hnow.annotationId, hnow.viewer, hnow.panels.close key, fun panel hmem =>
    hnow.edit panel (PanelSet.mem_of_mem_close hmem)⟩

/-- The panel of an entry may be opened at any time. -/
lemma openRejection (hnow : now.Consistent annotationId viewer) (index : UInt32)
    (placeholder : String) :
    View.Consistent annotationId viewer { now with
      panels := (now.panels.insert ⟨.entry index, .rejection, placeholder⟩).2 } := by
  refine ⟨hnow.annotationId, hnow.viewer, hnow.panels.insert (by simp [Panel.Fits]), ?_⟩
  intro panel hmem hkey
  rw [PanelSet.toList_insert, List.mem_append, List.mem_singleton] at hmem
  rcases hmem with hmem | rfl
  · exact hnow.edit panel (PanelSet.mem_of_mem_close hmem) hkey
  · cases hkey

/-- An edit that was saved leaves no panel behind, so that another is not offered until it is
decided. -/
lemma editSubmitted (hnow : now.Consistent annotationId viewer) (update : Update) :
    (now.applyEditSubmitted update).2.Consistent annotationId viewer := by
  refine ⟨hnow.annotationId, hnow.viewer, hnow.panels.close .text, ?_⟩
  intro panel hmem hkey
  exact absurd hkey (hnow.panels.distinct.key_ne_of_mem_close hmem)

end View.Consistent

namespace Review

open Backend (Call Outcome Saved Submission)
open Backend.Dialogue (Exchange Path)

section

variable {annotationId viewer : String} {now next : View} {command : Command}
  {exchanges : List Exchange} {result : Except Error CommandResult}

/-- Every course keeps the invariant. -/
lemma consistent_of_course (hcourse : Course now command exchanges result next)
    (hnow : now.Consistent annotationId viewer) : next.Consistent annotationId viewer := by
  cases hcourse with
  | inspected => exact hnow
  | noticeDismissed => exact hnow.noted _ _
  | refused => exact hnow.noted _ _
  | rejectionOpened => exact hnow.openRejection _ _
  | rejectionStarted => exact hnow.openRejection _ _
  | rejectionCancelled => exact hnow.closePanel _
  | editOpened hoffered =>
    exact ⟨hnow.annotationId, hnow.viewer, hnow.panels.insert (by simp [Panel.Fits]),
      fun _ _ _ => hoffered⟩
  | editCancelled =>
    have hclosed := hnow.closePanel .text
    exact ⟨hclosed.annotationId, hclosed.viewer, hclosed.panels, hclosed.edit⟩
  | refreshed hget hlookUp =>
    obtain ⟨status?, notice, hsettled, -⟩ := hlookUp.exists_settled
    rw [hsettled]
    exact hnow.noted _ _
  | editUnchanged => exact hnow
  | editFailed => exact hnow.noted _ _
  | editSaved hedit hget hlookUp =>
    obtain ⟨status?, notice, hsettled, -⟩ := hlookUp.exists_settled
    rw [hsettled]
    exact (hnow.editSubmitted _).noted _ _
  | rejectionBrokeDown => exact hnow.noted _ _
  | rejectionFailed => exact hnow.noted _ _
  | @rejectionSaved index _ target _ _ _ _ _ _ hreply rejected hget hlookUp =>
    obtain ⟨status?, notice, hsettled, -⟩ := hlookUp.exists_settled
    rw [hsettled]
    have hclosed := hnow.closePanel (.entry index)
    cases rejected <;>
      exact ⟨hclosed.annotationId, hclosed.viewer, hclosed.panels, hclosed.edit⟩
  | acceptFailed => exact hnow.noted _ _
  | @accepted index =>
    exact ⟨hnow.annotationId, hnow.viewer, hnow.panels.close (.entry index), fun _ _ _ => rfl⟩
  | retractFailed => exact hnow.noted _ _
  | @retracted index =>
    exact ⟨hnow.annotationId, hnow.viewer, hnow.panels.close (.entry index), fun _ _ _ => rfl⟩

lemma MountedAs.consistent {text : String} {view : View}
    (hmounted : MountedAs annotationId viewer text exchanges view) :
    view.Consistent annotationId viewer := by
  obtain ⟨thread, notice, rfl⟩ := hmounted.fresh
  exact ⟨rfl, rfl, PanelSet.orderly_empty, fun _ _ _ => rfl⟩

end

/-! ## Legal calls -/

/-- The entry addressed by an index is there under its name in the backend, open and shown. -/
structure Addresses (now : View) (index : UInt32) (updateId : String) (entry : Entry) : Prop where
  found : now.thread.find? index = some entry
  named : entry.update.id = updateId
  opened : entry.status = some .opened
  shown : entry.hidden = false

/-- What has to hold of the view when a command puts a call.  The exchanges are all that the command
goes through. -/
def Legal (annotationId viewer : String) (now : View) (command : Command)
    (exchanges : List Exchange) (call : Call) : Prop :=
  call.viewer = viewer ∧
  match call.query with
  | .accept updateId => ∃ index entry, command = .accept index ∧
      Addresses now index updateId entry ∧ entry.update.proposer ≠ viewer
  | .reject updateId => ∃ index comment entry, command = .submitRejection index comment ∧
      Addresses now index updateId entry ∧ entry.update.proposer ≠ viewer
  | .retract updateId => ∃ index entry, command = .retract index ∧
      Addresses now index updateId entry ∧ entry.update.proposer = viewer
  | .submit submission =>
    submission.annotationId = annotationId ∧ 10 ≤ submission.comment.length ∧
    match submission.answered? with
    | none =>
      (∃ panel, now.panels.get? .text = some panel) ∧ now.editOffered = true ∧
        submission.text ≠ now.text
    | some updateId =>
      (∃ exchange ∈ exchanges, exchange.call = ⟨viewer, .reject updateId⟩) ∧
        ∃ index entry panel, command = .submitRejection index submission.comment ∧
          Addresses now index updateId entry ∧ now.panels.get? (.entry index) = some panel ∧
          panel.kind = .rejection ∧ submission.text = now.text
  | .statusOf _ | .updatesOf _ => True

/-- The calls that ask for a change are put before the command has changed anything: should one of
them break down, the view is left as the command has found it, whatever becomes of a call that is
put together with it.  The calls in front of it end as they have ended, if they were heard of. -/
def AsksFirst (now : View) (command : Command) (exchanges : List Exchange) : Prop :=
  ∀ {front back : List Exchange} {call : Call} {outcome : Outcome call.Answer} (message : String),
    exchanges = front ++ ⟨call, outcome⟩ :: back → call.query.Mutates →
      ∃ before together, before.map Exchange.call = front.map Exchange.call ∧
        (heard front = front → before = front) ∧
        Path (command.operation now) (before ++ ⟨call, .panicked message⟩ :: together)
          (.error (abortion message), now.reporting (abortion message))

section

variable {annotationId viewer : String} {now : View} {command : Command}
  {exchanges : List Exchange}

/-- What a rule lets pass is addressed by the index it was asked for. -/
lemma addresses_of_actionable {index : UInt32} {action : Action} {entry : Entry}
    (hentry : now.actionable index action = .ok entry) :
    Addresses now index entry.update.id entry ∧
      (action = .retract ↔ entry.update.proposer = now.viewer) := by
  obtain ⟨hget, hlive, hrole⟩ := View.actionable_eq_ok_iff.mp hentry
  obtain ⟨hopened, hshown⟩ := Entry.isLive_iff.mp hlive
  exact ⟨⟨Thread.get_eq_ok_iff.mp hget, rfl, hopened, hshown⟩, Entry.retract_iff_of_authorize hrole⟩

lemma legal_of_edit {edited comment : String} {submission : Submission}
    (hnow : now.Consistent annotationId viewer)
    (hedit : now.proposedEdit edited comment = .ok (some submission)) :
    Legal annotationId viewer now command exchanges ⟨now.viewer, .submit submission⟩ := by
  obtain ⟨panel, hpanel, hchanged, hlong, rfl⟩ := View.proposedEdit_eq_ok hedit
  have hoffered := hnow.edit panel (PanelSet.mem_of_get? hpanel) (PanelSet.key_of_get? hpanel)
  exact ⟨hnow.viewer, hnow.annotationId, hlong, ⟨panel, hpanel⟩, hoffered, hchanged⟩

lemma legal_of_rejection {index : UInt32} {comment target : String} {submission : Submission}
    (hnow : now.Consistent annotationId viewer)
    (hreply : now.rejectionReply index comment = .ok (target, submission)) :
    Legal annotationId viewer now (.submitRejection index comment) exchanges
      ⟨now.viewer, .reject target⟩ := by
  obtain ⟨panel, entry, -, hentry, -, rfl, -⟩ := View.rejectionReply_eq_ok hreply
  obtain ⟨haddressed, hrole⟩ := addresses_of_actionable hentry
  have hother : entry.update.proposer ≠ now.viewer := fun hsame => by cases hrole.mpr hsame
  rw [hnow.viewer] at hother
  exact ⟨hnow.viewer, index, comment, entry, rfl, haddressed, hother⟩

lemma legal_of_reply {index : UInt32} {comment target : String} {submission : Submission}
    (hnow : now.Consistent annotationId viewer)
    (hreply : now.rejectionReply index comment = .ok (target, submission))
    (hrejected : ∃ exchange ∈ exchanges, exchange.call = ⟨now.viewer, .reject target⟩) :
    Legal annotationId viewer now (.submitRejection index comment) exchanges
      ⟨now.viewer, .submit submission⟩ := by
  obtain ⟨panel, entry, hpanel, hentry, hlong, rfl, rfl⟩ := View.rejectionReply_eq_ok hreply
  obtain ⟨haddressed, -⟩ := addresses_of_actionable hentry
  have hkind : panel.kind = .rejection := by
    have hfits := hnow.panels.fits panel (PanelSet.mem_of_get? hpanel)
    rw [Panel.Fits, PanelSet.key_of_get? hpanel] at hfits
    by_cases hkind : panel.kind = .rejection
    · exact hkind
    · cases hfits.mpr hkind
  rw [hnow.viewer] at hrejected
  exact ⟨hnow.viewer, hnow.annotationId, hlong, hrejected, index, entry, panel, rfl, haddressed,
    hpanel, hkind, rfl⟩

lemma legal_of_accept {index : UInt32} {entry : Entry}
    (hnow : now.Consistent annotationId viewer)
    (hentry : now.actionable index .accept = .ok entry) :
    Legal annotationId viewer now (.accept index) exchanges
      ⟨now.viewer, .accept entry.update.id⟩ := by
  obtain ⟨haddressed, hrole⟩ := addresses_of_actionable hentry
  have hother : entry.update.proposer ≠ now.viewer := fun hsame => by cases hrole.mpr hsame
  rw [hnow.viewer] at hother
  exact ⟨hnow.viewer, index, entry, rfl, haddressed, hother⟩

lemma legal_of_retract {index : UInt32} {entry : Entry}
    (hnow : now.Consistent annotationId viewer)
    (hentry : now.actionable index .retract = .ok entry) :
    Legal annotationId viewer now (.retract index) exchanges
      ⟨now.viewer, .retract entry.update.id⟩ := by
  obtain ⟨haddressed, hrole⟩ := addresses_of_actionable hentry
  have hsame := hrole.mp rfl
  rw [hnow.viewer] at hsame
  exact ⟨hnow.viewer, index, entry, rfl, haddressed, hsame⟩

/-- Reading a status is always legal. -/
lemma legal_of_lookUp {base after : View} {index : UInt32} {entry : Entry}
    {lookUps : List Exchange} {ending : Ending (Option Status)}
    (hlookUp : LookUp base index entry lookUps ending after) (hviewer : base.viewer = viewer) :
    ∀ exchange ∈ lookUps, Legal annotationId viewer now command exchanges exchange.call := by
  obtain ⟨outcome, rfl⟩ := hlookUp.exists_exchanges
  intro exchange hmem
  obtain rfl := List.mem_singleton.mp hmem
  exact ⟨hviewer, trivial⟩

/-- Every call of a course is legal. -/
lemma legal_of_course {result : Except Error CommandResult} {next : View}
    (hcourse : Course now command exchanges result next)
    (hnow : now.Consistent annotationId viewer) :
    ∀ exchange ∈ exchanges, Legal annotationId viewer now command exchanges exchange.call := by
  cases hcourse with
  | refreshed hget hlookUp => exact legal_of_lookUp hlookUp hnow.viewer
  | editFailed hedit =>
    exact List.forall_mem_singleton.mpr (legal_of_edit hnow hedit)
  | editSaved hedit hget hlookUp =>
    exact List.forall_mem_cons.mpr ⟨legal_of_edit hnow hedit, legal_of_lookUp hlookUp hnow.viewer⟩
  | rejectionBrokeDown hreply =>
    refine List.forall_mem_cons.mpr ⟨legal_of_rejection hnow hreply, ?_⟩
    exact List.forall_mem_singleton.mpr
      (legal_of_reply hnow hreply ⟨_, List.mem_cons_self, rfl⟩)
  | rejectionFailed hreply =>
    refine List.forall_mem_cons.mpr ⟨legal_of_rejection hnow hreply, ?_⟩
    exact List.forall_mem_singleton.mpr
      (legal_of_reply hnow hreply ⟨_, List.mem_cons_self, rfl⟩)
  | rejectionSaved hreply rejected hget hlookUp =>
    refine List.forall_mem_cons.mpr ⟨legal_of_rejection hnow hreply, ?_⟩
    refine List.forall_mem_cons.mpr
      ⟨legal_of_reply hnow hreply ⟨_, List.mem_cons_self, rfl⟩, ?_⟩
    exact legal_of_lookUp hlookUp (by rw [View.viewer_reportingUnrejected]; exact hnow.viewer)
  | acceptFailed hentry => exact List.forall_mem_singleton.mpr (legal_of_accept hnow hentry)
  | accepted hentry => exact List.forall_mem_singleton.mpr (legal_of_accept hnow hentry)
  | retractFailed hentry => exact List.forall_mem_singleton.mpr (legal_of_retract hnow hentry)
  | retracted hentry => exact List.forall_mem_singleton.mpr (legal_of_retract hnow hentry)
  | _ => simp

/-! ## The moment of a call -/

/-- A single exchange that is one of several in a row is the only one. -/
lemma eq_of_singleton {exchange found : Exchange} {front back : List Exchange}
    (hexchanges : [exchange] = front ++ found :: back) : front = [] ∧ exchange = found := by
  rcases List.cons_eq_append_iff.mp hexchanges with ⟨rfl, hfound⟩ | ⟨more, rfl, hnone⟩
  · exact ⟨rfl, (List.cons.inj hfound).1.symm⟩
  · exact absurd hnone (by simp)

/-- The first exchange, or one of those that read a status. -/
lemma eq_of_lookUp {base after : View} {index : UInt32} {entry : Entry}
    {lookUps front back : List Exchange} {ending : Ending (Option Status)}
    {exchange found : Exchange} (hlookUp : LookUp base index entry lookUps ending after)
    (hexchanges : exchange :: lookUps = front ++ found :: back)
    (hmutates : found.call.query.Mutates) : front = [] ∧ exchange = found := by
  rcases List.cons_eq_append_iff.mp hexchanges with ⟨rfl, hfound⟩ | ⟨more, rfl, hrest⟩
  · exact ⟨rfl, (List.cons.inj hfound).1.symm⟩
  · obtain ⟨outcome, rfl⟩ := hlookUp.exists_exchanges
    obtain ⟨-, rfl⟩ := eq_of_singleton hrest
    exact hmutates.elim

/-- A rejection may break down at either of its calls. -/
lemma exists_breakdown_of_rejection {index : UInt32} {comment target : String}
    {submission : Submission} {first : Outcome Unit} {second : Outcome Saved}
    {front back lookUps : List Exchange} {call : Call} {outcome : Outcome call.Answer}
    (hreply : now.rejectionReply index comment = .ok (target, submission))
    (hexchanges : ⟨⟨now.viewer, .reject target⟩, first⟩ ::
      ⟨⟨now.viewer, .submit submission⟩, second⟩ :: lookUps = front ++ ⟨call, outcome⟩ :: back)
    (hlookUps : ∀ exchange ∈ lookUps, ¬exchange.call.query.Mutates)
    (hmutates : call.query.Mutates) (message : String) :
    ∃ before together, before.map Exchange.call = front.map Exchange.call ∧
      (heard front = front → before = front) ∧
      Course now (.submitRejection index comment)
        (before ++ ⟨call, .panicked message⟩ :: together) (.error (abortion message))
        (now.reporting (abortion message)) := by
  rcases List.cons_eq_append_iff.mp hexchanges with ⟨rfl, ⟨⟩⟩ | ⟨more, rfl, hrest⟩
  · exact ⟨[], [⟨⟨now.viewer, .submit submission⟩, .panicked message⟩], rfl, fun _ => rfl,
      .rejectionBrokeDown hreply message (by rintro _ ⟨⟩; rfl)⟩
  rcases List.cons_eq_append_iff.mp hrest with ⟨rfl, ⟨⟩⟩ | ⟨reads, rfl, hread⟩
  · -- the update is closed as it was, or it is closed instead of breaking down
    cases first with
    | answered answer => exact ⟨_, [], rfl, fun _ => rfl, .rejectionFailed hreply (.ok ()) rfl⟩
    | failed error => exact ⟨_, [], rfl, fun _ => rfl, .rejectionFailed hreply (.error error) rfl⟩
    | panicked taken =>
      exact ⟨[⟨⟨now.viewer, .reject target⟩, .answered ()⟩], [], rfl, by rintro ⟨⟩,
        .rejectionFailed hreply (.ok ()) rfl⟩
  · exact absurd hmutates (hlookUps ⟨call, outcome⟩ (by simp [hread]))

/-- Up to a call that asks for a change, nothing is changed: if the call breaks down, the view is
left as the command has found it. -/
lemma exists_course_of_breakdown {result : Except Error CommandResult} {next : View}
    {front back : List Exchange} {call : Call} {outcome : Outcome call.Answer}
    (hcourse : Course now command (front ++ ⟨call, outcome⟩ :: back) result next)
    (hmutates : call.query.Mutates) (message : String) :
    ∃ before together, before.map Exchange.call = front.map Exchange.call ∧
      (heard front = front → before = front) ∧
      Course now command (before ++ ⟨call, .panicked message⟩ :: together)
        (.error (abortion message)) (now.reporting (abortion message)) := by
  have halone : Course now command (front ++ [⟨call, .panicked message⟩])
      (.error (abortion message)) (now.reporting (abortion message)) →
      ∃ before together, before.map Exchange.call = front.map Exchange.call ∧
        (heard front = front → before = front) ∧
        Course now command (before ++ ⟨call, .panicked message⟩ :: together)
          (.error (abortion message)) (now.reporting (abortion message)) :=
    fun hbroken => ⟨front, [], rfl, fun _ => rfl, hbroken⟩
  generalize hexchanges : front ++ ⟨call, outcome⟩ :: back = exchanges at hcourse
  cases hcourse with
  | refreshed hget hlookUp =>
    obtain ⟨answer, rfl⟩ := hlookUp.exists_exchanges
    obtain ⟨-, ⟨⟩⟩ := eq_of_singleton hexchanges.symm
    exact hmutates.elim
  | editFailed hedit =>
    obtain ⟨rfl, ⟨⟩⟩ := eq_of_singleton hexchanges.symm
    exact halone (.editFailed hedit rfl)
  | editSaved hedit hget hlookUp =>
    obtain ⟨rfl, ⟨⟩⟩ := eq_of_lookUp hlookUp hexchanges.symm hmutates
    exact halone (.editFailed hedit rfl)
  | rejectionBrokeDown hreply =>
    exact exists_breakdown_of_rejection hreply hexchanges.symm (List.forall_mem_nil _) hmutates
      message
  | rejectionFailed hreply rejected =>
    exact exists_breakdown_of_rejection hreply hexchanges.symm (List.forall_mem_nil _) hmutates
      message
  | rejectionSaved hreply rejected hget hlookUp =>
    refine exists_breakdown_of_rejection hreply hexchanges.symm ?_ hmutates message
    obtain ⟨answer, rfl⟩ := hlookUp.exists_exchanges
    exact List.forall_mem_singleton.mpr id
  | acceptFailed hentry =>
    obtain ⟨rfl, ⟨⟩⟩ := eq_of_singleton hexchanges.symm
    exact halone (.acceptFailed hentry rfl)
  | accepted hentry =>
    obtain ⟨rfl, ⟨⟩⟩ := eq_of_singleton hexchanges.symm
    exact halone (.acceptFailed hentry rfl)
  | retractFailed hentry =>
    obtain ⟨rfl, ⟨⟩⟩ := eq_of_singleton hexchanges.symm
    exact halone (.retractFailed hentry rfl)
  | retracted hentry =>
    obtain ⟨rfl, ⟨⟩⟩ := eq_of_singleton hexchanges.symm
    exact halone (.retractFailed hentry rfl)
  | _ => simp at hexchanges

/-! ## Refusals -/

lemma LookUp.exists_failure {α : Type} {base after : View} {index : UInt32} {entry : Entry}
    {lookUps : List Exchange} {ending : Ending (Option Status)} {f : Option Status → α}
    {error : Error} (hlookUp : LookUp base index entry lookUps ending after)
    (hresult : ending.result.map f = .error error) :
    ∃ exchange ∈ lookUps, exchange.outcome.failure? = some error := by
  cases hlookUp with
  | failed failure => cases hresult; exact ⟨_, List.mem_singleton_self _, rfl⟩
  | brokeDown message => cases hresult; exact ⟨_, List.mem_singleton_self _, rfl⟩
  | unknown => cases hresult
  | recorded => cases hresult

/-- Where calls were put, it is one of them that has failed. -/
lemma exists_failure_of_course {error : Error} {next : View}
    (hcourse : Course now command exchanges (.error error) next) :
    exchanges = [] ∨ ∃ exchange ∈ exchanges, exchange.outcome.failure? = some error := by
  generalize hresult : (Except.error error : Except Error CommandResult) = result at hcourse
  cases hcourse with
  | refreshed hget hlookUp => exact .inr (hlookUp.exists_failure hresult.symm)
  | editFailed hedit hfailure =>
    cases hresult
    exact .inr ⟨_, List.mem_singleton_self _, hfailure⟩
  | editSaved hedit hget hlookUp =>
    have hfailure := hlookUp.exists_failure (Ending.result_of_attempted_error hresult.symm id)
    obtain ⟨exchange, hmem, hfailure⟩ := hfailure
    exact .inr ⟨exchange, List.mem_cons_of_mem _ hmem, hfailure⟩
  | rejectionBrokeDown hreply message =>
    cases hresult
    exact .inr ⟨_, List.mem_cons_self, rfl⟩
  | rejectionFailed hreply rejected hfailure =>
    cases hresult
    exact .inr ⟨_, List.mem_cons_of_mem _ (List.mem_singleton_self _), hfailure⟩
  | rejectionSaved hreply rejected hget hlookUp =>
    have hfailure := hlookUp.exists_failure (Ending.result_of_attempted_error hresult.symm id)
    obtain ⟨exchange, hmem, hfailure⟩ := hfailure
    exact .inr ⟨exchange, List.mem_cons_of_mem _ (List.mem_cons_of_mem _ hmem), hfailure⟩
  | acceptFailed hentry hfailure =>
    cases hresult
    exact .inr ⟨_, List.mem_singleton_self _, hfailure⟩
  | retractFailed hentry hfailure =>
    cases hresult
    exact .inr ⟨_, List.mem_singleton_self _, hfailure⟩
  | accepted => cases hresult
  | retracted => cases hresult
  | _ => exact .inl rfl

/-- A rule that refuses does so before anything is sent. -/
lemma exchanges_of_refusal {error : DomainError} {next : View}
    (hcourse : Course now command exchanges (.error (.domain error)) next)
    (hrefused : ∀ message, Error.domain error ≠ abortion message) : exchanges = [] := by
  rcases exists_failure_of_course hcourse with hnone | ⟨exchange, -, hfailure⟩
  · exact hnone
  · obtain ⟨call, answer | failure | message⟩ := exchange
    · cases hfailure
    · cases hfailure
    · exact absurd (Option.some.inj hfailure).symm (hrefused message)

end

/-- **Only legal calls are put.**  After a mount and any commands, whatever the backend has
answered, the next command puts only calls that are legal for the view it finds, in the name of the
viewer, and that view is still there when it asks for a change; the mount itself has asked for no
change; and a command that a rule refuses, rather than a failing call or a broken operation, puts
no call at all. -/
theorem only_legal_calls {annotationId viewer text : String} {loading exchanges : List Exchange}
    {mounted now next : View} {past : List Event} {command : Command}
    {result : Except Error CommandResult}
    (hmount : Mounts annotationId viewer text loading mounted) (hpast : Run mounted past now)
    (hstep : Path (command.operation now) exchanges (result, next)) :
    (∀ exchange ∈ loading, exchange.call.viewer = viewer ∧ ¬exchange.call.query.Mutates) ∧
      (∀ exchange ∈ exchanges, Legal annotationId viewer now command exchanges exchange.call) ∧
      AsksFirst now command exchanges ∧
      ∀ error, result = .error (.domain error) →
        (∀ message, Error.domain error ≠ abortion message) → exchanges = [] := by
  have hmounted := mountedAs_of_mounts hmount
  have hnow : now.Consistent annotationId viewer :=
    hpast.inv consistent_of_course hmounted.consistent
  have hcourse := course_of_path hstep
  refine ⟨hmounted.calls, legal_of_course hcourse hnow, ?_, ?_⟩
  · rintro front back call outcome message rfl hmutates
    obtain ⟨before, together, hcalls, hsame, hbroken⟩ :=
      exists_course_of_breakdown hcourse hmutates message
    exact ⟨before, together, hcalls, hsame, path_of_course hbroken⟩
  · rintro error rfl hrefused
    exact exchanges_of_refusal hcourse hrefused

/-- After a mount and the start of an edit, the edit is sent with its comment, and then the status
of what was saved is looked up. -/
theorem legal_edit : Legal "A1" "author" editing (.submitEdit "list all files" "hidden ones too")
    [⟨⟨"author", .submit ⟨"A1", "list all files", "hidden ones too", none⟩⟩,
      .answered ⟨"U1", "author", "t1"⟩⟩, ⟨⟨"author", .statusOf "U1"⟩, .answered "open"⟩]
    ⟨"author", .submit ⟨"A1", "list all files", "hidden ones too", none⟩⟩ := by
  have hmount := mounts_without_updates "A1" "author" "list files"
  obtain ⟨-, hlegal, -⟩ :=
    only_legal_calls hmount (.cons path_editing (.nil editing)) path_proposed
  exact hlegal _ List.mem_cons_self

end Review

end AnnotationReview
