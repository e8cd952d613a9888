import AnnotationReview.Proofs.Editing
import AnnotationReview.Proofs.Offer

/-!
# Panels and the statuses behind them

The panel of an entry is opened on an entry that is open, and every decision that the viewer takes
on the entry closes it.  A look-up of the status does neither: it records what the backend reports
and leaves the panel as it is.  So an open panel stands on an entry that is shown, and the status
of this entry is the one that was reported last since the panel was opened
(`panel_status_iff_reports`).  Where that is not open, the panel still has its buttons, and what is
written in it is refused (`panel_outlives_openness`).

The reports are read off the events.  A look-up is about the entry that it is asked for, or about
the entry that a submission has just appended, of which the caller is told the index.
-/

namespace AnnotationReview

open Backend.Dialogue (Exchange Path)

/-- Behind a panel, the entry can be rejected just while it is open. -/
lemma Thread.Bears.exists_actionable_iff {view : View} {index : UInt32} {entry : Entry}
    (hentry : view.thread.Bears view.viewer index entry) :
    (∃ found, view.actionable index .reject = .ok found) ↔ entry.status = some .opened := by
  have hget := Thread.get_eq_ok_iff.mpr hentry.found
  constructor
  · rintro ⟨found, hfound⟩
    obtain ⟨hsame, hlive, -⟩ := View.actionable_eq_ok_iff.mp hfound
    rw [hget] at hsame
    cases hsame
    exact (Entry.isLive_iff.mp hlive).1
  · intro hopened
    have hother : entry.proposedBy view.viewer = false := by
      simpa [Entry.proposedBy] using hentry.foreign
    refine ⟨entry, View.actionable_eq_ok_iff.mpr ⟨hget, ?_, ?_⟩⟩
    · exact Entry.isLive_iff.mpr ⟨hopened, hentry.shown⟩
    · simp [Entry.authorize, hother]

namespace Review

/-! ## Reports -/

/-- The word for a status, if it was asked for and answered. -/
def word? : Exchange → Option String
  | ⟨⟨_, .statusOf _⟩, .answered word⟩ => some word
  | _ => none

/-- The status that some exchanges have reported. -/
def reported? (exchanges : List Exchange) : Option Status :=
  (exchanges.findSome? word?).bind Status.ofName?

/-- The index of the entry that was appended, if one was. -/
def CommandResult.appended? : CommandResult → Option UInt32
  | .edit (.submitted index) | .reply index => some index
  | _ => none

/-- The index of the entry whose status an event looks up. -/
def Event.lookedUp? (event : Event) : Option UInt32 :=
  match event.command with
  | .refreshStatus index => some index
  | _ => event.result.toOption.bind CommandResult.appended?

/-- The status that an event reports of the entry with an index. -/
def Event.report? (index : UInt32) (event : Event) : Option Status :=
  if event.lookedUp? = some index then reported? event.exchanges else none

/-- The statuses that some events report of the entry with an index, in their order. -/
def reports (index : UInt32) (events : List Event) : List Status :=
  events.filterMap (Event.report? index)

section

variable {now next first last : View} {command : Command} {exchanges : List Exchange}
  {result : Except Error CommandResult} {viewer : String} {index : UInt32} {entry : Entry}

/-- A look-up leaves what was reported. -/
lemma LookUp.exists_settled_reported {base after : View} {target : UInt32} {looked : Entry}
    {lookUps : List Exchange} {ending : Ending (Option Status)}
    (hlookUp : LookUp base target looked lookUps ending after) :
    ∃ notice, ending.settled after =
      { base with thread := base.thread.noting target (reported? lookUps), notice } := by
  cases hlookUp with
  | failed error => exact ⟨some (Error.backend error).notice, rfl⟩
  | brokeDown message => exact ⟨some (abortion message).notice, rfl⟩
  | @unknown word hword =>
    refine ⟨base.notice, ?_⟩
    rw [show reported? [⟨⟨base.viewer, .statusOf looked.update.id⟩, .answered word⟩] = none
      from hword]
    rfl
  | recorded status =>
    refine ⟨base.notice, ?_⟩
    rw [show reported? [⟨⟨base.viewer, .statusOf looked.update.id⟩, .answered status.name⟩] =
      some status from Status.ofName?_name status]
    rfl

/-- An event that has appended an entry reports what the look-up of its status has found. -/
lemma LookUp.report?_saved {base after : View} {target : UInt32} {looked : Entry}
    {lookUps : List Exchange} {ending : Ending (Option Status)} {event : Event}
    (hlookUp : LookUp base target looked lookUps ending after) (value : CommandResult)
    (hcommand : ∀ other, event.command ≠ .refreshStatus other)
    (hresult : event.result = (ending.attempted value).result)
    (hvalue : value.appended? = some target)
    (hreported : reported? event.exchanges = reported? lookUps) :
    event.report? index = if target = index then reported? lookUps else none := by
  have hlooked : event.lookedUp? = event.result.toOption.bind CommandResult.appended? := by
    unfold Event.lookedUp?
    split
    next other hrefresh => exact absurd hrefresh (hcommand other)
    next => rfl
  rw [Event.report?, hreported, hlooked, hresult]
  cases hlookUp with
  | brokeDown message => simp [reported?, word?]
  | _ => simp [Ending.attempted, Ending.result, Except.toOption, hvalue]

attribute [local simp] Event.report? Event.lookedUp? CommandResult.appended? Except.toOption

/-- What becomes of an entry that bears a panel: it stays one as long as the panel is not closed,
and it has the status that the event reports of it, if it reports one. -/
lemma exists_bears_of_course (hcourse : Course now command exchanges result next)
    (hentry : now.thread.Bears viewer index entry)
    (hopen : ¬(⟨command, exchanges, result⟩ : Event).Closes (.entry index)) :
    ∃ late, next.thread.Bears viewer index late ∧
      late.status = ((⟨command, exchanges, result⟩ : Event).report? index).or entry.status := by
  have hnoted : ∀ (target : UInt32) (status? : Option Status),
      (if target = index then entry.noting status? else entry).status =
        (if target = index then status? else none).or entry.status := by
    intro target status?
    split <;> rfl
  cases hcourse with
  | @refreshed target _ _ _ _ hget hlookUp =>
    obtain ⟨notice, hsettled⟩ := hlookUp.exists_settled_reported
    rw [hsettled]
    refine ⟨_, hentry.noting target (reported? exchanges), ?_⟩
    simp only [hnoted, Event.report?, Event.lookedUp?, Option.some_inj]
  | @editSaved _ _ submission saved _ lookUps _ _ hedit hget hlookUp =>
    obtain ⟨notice, hsettled⟩ := hlookUp.exists_settled_reported
    rw [hsettled]
    refine ⟨_, (hentry.append _).noting now.thread.nextIndex (reported? lookUps), ?_⟩
    rw [hnoted, hlookUp.report?_saved (.edit (.submitted now.thread.nextIndex)) (by simp)]
    all_goals rfl
  | @rejectionSaved target _ _ submission saved _ lookUps _ _ hreply rejected hget hlookUp =>
    have hother : target ≠ index := by
      rintro rfl
      exact hopen (.inr (.inl ⟨by simp [Event.deposits], .author, rfl⟩))
    have hrejected : (now.thread.modify target fun entry =>
        { entry with status := some .rejected }).Bears viewer index entry :=
      hentry.modify hother fun _ => rfl
    obtain ⟨notice, hsettled⟩ := hlookUp.exists_settled_reported
    rw [hsettled, View.thread_reportingUnrejected]
    refine ⟨_, (hrejected.append _).noting now.thread.nextIndex (reported? lookUps), ?_⟩
    rw [hnoted, hlookUp.report?_saved (.reply now.thread.nextIndex) (by simp)]
    all_goals rfl
  | @accepted target _ _ answer =>
    have hother : target ≠ index := by
      rintro rfl
      exact hopen (.inr (.inr ⟨target, rfl, .inl rfl, .done, rfl⟩))
    exact ⟨entry, hentry.modify hother fun _ => rfl, by simp⟩
  | @retracted target =>
    have hother : target ≠ index := by
      rintro rfl
      exact hopen (.inr (.inr ⟨target, rfl, .inr rfl, .done, rfl⟩))
    exact ⟨entry, hentry.erase hother, by simp⟩
  | refused =>
    have hsilent : reported? [] = none := rfl
    exact ⟨entry, hentry, by rw [Event.report?, hsilent, ite_self, Option.none_or]⟩
  | _ => exact ⟨entry, hentry, by simp⟩

/-- The status of an entry whose panel stays open is the latest that was reported. -/
lemma exists_bears_of_run {status : Status} {events : List Event} (hrun : Run first events last)
    (hentry : first.thread.Bears viewer index entry) (hstatus : entry.status = some status)
    (hopen : ∀ event ∈ events, ¬event.Closes (.entry index)) :
    ∃ late, last.thread.Bears viewer index late ∧
      late.status = some ((reports index events).getLastD status) := by
  induction hrun generalizing entry status with
  | nil => exact ⟨entry, hentry, hstatus⟩
  | cons head tail ih =>
    obtain ⟨hhead, hlater⟩ := List.forall_mem_cons.mp hopen
    obtain ⟨late, hlate, hreported⟩ := exists_bears_of_course (course_of_path head) hentry hhead
    rw [hstatus] at hreported
    rw [reports]
    cases hreport : Event.report? index ⟨_, _, _⟩ with
    | none =>
      rw [hreport, Option.none_or] at hreported
      rw [List.filterMap_cons_none hreport]
      exact ih hlate hreported hlater
    | some latest =>
      rw [hreport, Option.some_or] at hreported
      rw [List.filterMap_cons_some hreport, List.getLastD_cons]
      exact ih hlate hreported hlater

/-- Whoever opens the panel of an entry finds the entry open, and leaves it so. -/
lemma exists_bears_of_opens (hcourse : Course now command exchanges result next)
    (hopens : (⟨command, exchanges, result⟩ : Event).Opens (.entry index)) :
    ∃ entry, next.thread.Bears now.viewer index entry ∧ entry.status = some .opened := by
  obtain ⟨hcommand, value, hvalue⟩ := hopens
  have hopened : ∀ {target : UInt32} {found : Entry}, target = index →
      now.actionable target .reject = .ok found →
      ∃ entry, now.thread.Bears now.viewer index entry ∧ entry.status = some .opened := by
    rintro target found rfl hfound
    have hbears := View.bears_of_actionable hfound
    exact ⟨found, hbears, hbears.exists_actionable_iff.mp ⟨found, hfound⟩⟩
  cases hcourse with
  | rejectionOpened hentry => exact hopened (PanelKey.entry.inj (Option.some.inj hcommand)) hentry
  | rejectionStarted hentry => exact hopened (PanelKey.entry.inj (Option.some.inj hcommand)) hentry
  | refused => cases hvalue
  | _ => cases hcommand

/-! ## What is written in a panel -/

/-- A rejection with a comment that is long enough is sent where the entry can be rejected. -/
lemma submitRejection_passesOn_iff {comment : String}
    (hpanel : now.panels.isOpen (.entry index) = true) (hcomment : 10 ≤ comment.length) :
    (Command.submitRejection index comment).PassesOn now ↔
      ∃ found, now.actionable index .reject = .ok found := by
  rw [passesOn_iff]
  refine map_eq_ok_iff.trans ?_
  constructor
  · rintro ⟨⟨target, submission⟩, hreply⟩
    obtain ⟨panel, found, -, hfound, -⟩ := View.rejectionReply_eq_ok hreply
    exact ⟨found, hfound⟩
  · rintro ⟨found, hfound⟩
    obtain ⟨panel, hrequired⟩ := PanelSet.exists_require hpanel
    have hlong : Comment.check comment .rejection = .ok () :=
      if_neg (Nat.not_lt.mpr hcomment)
    refine ⟨_, bind_eq_ok_iff.mpr ⟨panel, hrequired, bind_eq_ok_iff.mpr ⟨found, hfound,
      bind_eq_ok_iff.mpr ⟨(), hlong, rfl⟩⟩⟩⟩

/-- Where the entry cannot be rejected nothing is sent. -/
lemma submitRejection_refusedOn (hclosed : ¬∃ found, now.actionable index .reject = .ok found)
    (comment : String) : (Command.submitRejection index comment).RefusedOn now := by
  have hunsent : ∀ {reply}, now.rejectionReply index comment ≠ .ok reply := by
    rintro ⟨target, submission⟩ hreply
    obtain ⟨panel, found, -, hfound, -⟩ := View.rejectionReply_eq_ok hreply
    exact hclosed ⟨found, hfound⟩
  intro exchanges result next hpath
  cases course_of_path hpath with
  | refused hcheck => exact ⟨rfl, _, rfl⟩
  | rejectionBrokeDown hreply => exact absurd hreply hunsent
  | rejectionFailed hreply => exact absurd hreply hunsent
  | rejectionSaved hreply => exact absurd hreply hunsent

end

end Review

/-! ## In the markup -/

namespace Markup

/-- The tag opens a button that does something. -/
def Tag.acts (action : String) (tag : Tag) : Bool :=
  tag.name == "button" && tag.value? "data-action" == some action

/-- The two things that can be done with the panel of an entry. -/
def rejectionActions : List String := ["submit_rejection", "cancel_rejection"]

variable {view : View}

/-- An entry has the buttons of a rejection where its panel is open. -/
lemma any_acts_entryNode (horderly : view.panels.Orderly) (controls : Controls) (entry : Entry) :
    ∀ action ∈ rejectionActions, (entryNode view controls entry).tags.any (Tag.acts action) =
      view.panels.isOpen (.entry entry.index) := by
  intro action haction
  have hcontrols : (Node.tagsAll (controlNodes entry.index controls)).any (Tag.acts action) =
      false := by
    simp only [rejectionActions, List.mem_cons, List.not_mem_nil, or_false] at haction
    rcases haction with rfl | rfl <;> cases controls <;>
      simp [controlNodes, entryButton, buttonAttributes, attr, Node.tags, Node.tagsAll, Tag.acts,
        Tag.value?]
  have hp : ∀ name attributes, name ≠ "input" → name ≠ "button" →
      Tag.acts action ⟨name, attributes⟩ = false := by
    simp_all [Tag.acts]
  rw [any_entryNode view hp, hcontrols, Bool.false_or, PanelSet.isOpen]
  cases hpanel : view.panels.get? (.entry entry.index) with
  | none => rfl
  | some panel =>
    -- what stands at an entry is no edit, and so its buttons are those of a rejection
    have hkind : panel.kind.target? = none := by
      simpa using mt (horderly.isSome_target?_iff hpanel).mp (by simp)
    obtain ⟨key, kind, placeholder⟩ := panel
    cases kind with
    | changeAndComment target => cases hkind
    | rejection =>
      simp only [rejectionActions, List.mem_cons, List.not_mem_nil, or_false] at haction
      rcases haction with rfl | rfl <;>
        simp [panelNodes, panelNode, buttonAttributes, attr, Node.tags, Node.tagsAll, Tag.acts,
          Tag.value?, PanelKind.target?]

/-- The markup of a shown entry is a part of the page. -/
lemma tags_entryNode_within {entry : Entry} (hshown : entry ∈ view.thread.visible) :
    (entryNode view (view.controls entry) entry).tags <:+: (annotationNode view).tags := by
  obtain ⟨earlier, later, hvisible⟩ := List.append_of_mem hshown
  obtain ⟨head, list, htags, -⟩ := tags_annotationNode view
  have hentries : (entryNode view (view.controls entry) entry).tags <:+:
      view.thread.visible.flatMap fun entry =>
        (entryNode view (view.controls entry) entry).tags := by
    rw [hvisible, List.flatMap_append, List.flatMap_cons, ← List.append_assoc]
    exact List.infix_append _ _ _
  rw [htags]
  exact (hentries.trans (List.suffix_cons list _).isInfix).trans
    ((List.suffix_append _ _).trans (List.suffix_append _ _)).isInfix

end Markup

/-! ## The theorem -/

namespace Review

open Markup

/-- The entry behind an open panel, and what becomes of what is written in the panel. -/
structure StandsOn (now : View) (index : UInt32) (status : Status) (entry : Entry) : Prop where
  bears : now.thread.Bears now.viewer index entry
  recorded : entry.status = some status
  sent : ∀ comment, 10 ≤ comment.length →
    ((Command.submitRejection index comment).PassesOn now ↔ status = .opened)
  refused : status ≠ .opened → ∀ comment, (Command.submitRejection index comment).RefusedOn now

lemma standsOn_of_bears {now : View} {index : UInt32} {status : Status} {entry : Entry}
    (hpanel : now.panels.isOpen (.entry index) = true)
    (hentry : now.thread.Bears now.viewer index entry) (hstatus : entry.status = some status) :
    StandsOn now index status entry := by
  have hactionable := hentry.exists_actionable_iff
  rw [hstatus, Option.some_inj] at hactionable
  exact ⟨hentry, hstatus,
    fun comment hcomment => (submitRejection_passesOn_iff hpanel hcomment).trans hactionable,
    fun hclosed comment => submitRejection_refusedOn (mt hactionable.mp hclosed) comment⟩

section

variable {annotationId viewer text : String} {loading : List Exchange} {mounted now : View}
  {past : List Event}

/-- **What stands behind an open panel.**  After a mount and any commands, whatever the backend
answers, the panel of an entry is open exactly if it was opened since the mount and not closed
since.  Its entry is then shown, and it has the status that was last reported of it since the panel
was opened, and is open if none was; a comment that is long enough is sent while that is so, and
every comment is refused otherwise.  The markup of a shown entry has the two buttons of the panel
just where the panel is open. -/
theorem panel_status_iff_reports (hmount : Mounts annotationId viewer text loading mounted)
    (hpast : Run mounted past now) (index : UInt32) :
    (now.panels.isOpen (.entry index) = true ↔
      Since (·.Opens (.entry index)) (·.Closes (.entry index)) past) ∧
    (∀ earlier opening later, past = earlier ++ opening :: later →
      opening.Opens (.entry index) → (∀ event ∈ later, ¬event.Closes (.entry index)) →
      ∃ entry, StandsOn now index ((reports index later).getLastD .opened) entry) ∧
    ∃ tags, tags? now.render = some tags ∧ ∀ entry ∈ now.thread.visible,
      (entryNode now (now.controls entry) entry).tags <:+: tags ∧
      ∀ action ∈ rejectionActions,
        (entryNode now (now.controls entry) entry).tags.any (Tag.acts action) =
          now.panels.isOpen (.entry entry.index) := by
  have hmounted := mountedAs_of_mounts hmount
  have hconsistent : now.Consistent annotationId viewer :=
    hpast.inv consistent_of_course hmounted.consistent
  have hsince := isOpen_iff_since hmount hpast (.entry index)
  refine ⟨hsince, ?_, _, tags?_render now, fun entry hshown =>
    ⟨tags_entryNode_within hshown, any_acts_entryNode hconsistent.panels _ entry⟩⟩
  rintro earlier opening later rfl hopens hopen
  have hpanel := hsince.mpr ⟨earlier, opening, later, rfl, hopens, hopen⟩
  obtain ⟨before, hearlier, hrun⟩ := Run.append_iff.mp hpast
  cases hrun with
  | cons head tail =>
    have hbefore := hearlier.inv consistent_of_course hmounted.consistent
    obtain ⟨entry, hentry, hstatus⟩ := exists_bears_of_opens (course_of_path head) hopens
    obtain ⟨late, hlate, hreported⟩ := exists_bears_of_run tail hentry hstatus hopen
    rw [hbefore.viewer, ← hconsistent.viewer] at hlate
    exact ⟨late, standsOn_of_bears hpanel hlate hreported⟩

end

/-- While the rejection of an open entry is written it can be sent. -/
theorem panel_status_while_rejecting : ∃ entry, StandsOn rejecting 0 .opened entry := by
  obtain ⟨-, hstands, -⟩ :=
    panel_status_iff_reports mounts_reviewing (.cons path_rejecting (.nil rejecting)) 0
  exact hstands [] _ [] rfl ⟨rfl, .done, rfl⟩ fun _ hmem => absurd hmem List.not_mem_nil

/-- While a rejection is written, the entry is looked up and found accepted by somebody else: the
panel and its buttons stay, and nothing that is written there can be sent. -/
theorem panel_outlives_openness : ∃ loading events last entry,
    Mounts "A1" "author" "list files" loading reviewing ∧ Run reviewing events last ∧
      last.panels.isOpen (.entry 0) = true ∧
      last.thread.get 0 = .ok entry ∧ entry.status = some .accepted ∧
      (∃ tags, tags? last.render = some tags ∧
        ∀ action ∈ rejectionActions, tags.any (Tag.acts action) = true) ∧
      ∀ comment, (Command.submitRejection 0 comment).RefusedOn last := by
  have hget : rejecting.thread.get 0 = .ok ⟨0, ⟨"U1", "judge", "t1", "list all files",
      "lists hidden files too", .judger⟩, some .opened, false⟩ := rfl
  have hrefreshed := path_of_course (.refreshed hget (.recorded .accepted))
  have hrun := Run.cons path_rejecting (.cons hrefreshed (.nil _))
  have hconsistent :=
    hrun.inv consistent_of_course (mountedAs_of_mounts mounts_reviewing).consistent
  refine ⟨_, _, _, ⟨0, ⟨"U1", "judge", "t1", "list all files", "lists hidden files too", .judger⟩,
    some .accepted, false⟩, mounts_reviewing, hrun, rfl, rfl, rfl, ⟨_, tags?_render _, ?_⟩, ?_⟩
  · intro action haction
    have hbutton := any_acts_entryNode hconsistent.panels .inert ⟨0, ⟨"U1", "judge", "t1",
      "list all files", "lists hidden files too", .judger⟩, some .accepted, false⟩ action haction
    obtain ⟨tag, hmem, hacts⟩ := List.any_eq_true.mp (hbutton.trans rfl)
    exact List.any_eq_true.mpr ⟨tag, (tags_entryNode_within List.mem_cons_self).subset hmem, hacts⟩
  · refine submitRejection_refusedOn ?_
    rintro ⟨found, hfound⟩
    obtain ⟨hsame, hlive, -⟩ := View.actionable_eq_ok_iff.mp hfound
    cases hsame
    cases hlive

end Review

end AnnotationReview
