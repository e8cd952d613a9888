import AnnotationReview.Proofs.History

/-!
# An entry is resolved at most once

An entry that was accepted is hidden and one that was taken back is gone; neither is undone, since
nothing is shown again and no index is handed out twice.  An entry that was rejected stays as it
is, and only a look-up that finds it open can open it again.  Either way no command that decides on
it gets past the rules, and nothing is sent (`resolved_at_most_once`).
-/

namespace AnnotationReview

namespace Thread

variable {index : UInt32} {first last : Thread}

/-- The index has been handed out, and what is there of its entry is hidden. -/
structure Withdrawn (index : UInt32) (thread : Thread) : Prop where
  handedOut : index < thread.nextIndex
  hidden : ∀ entry ∈ thread.entries, entry.index = index → entry.hidden = true

/-- The index has been handed out, and what is there of its entry is not open. -/
structure Shut (index : UInt32) (thread : Thread) : Prop where
  handedOut : index < thread.nextIndex
  shut : ∀ entry ∈ thread.entries, entry.index = index → entry.isOpen = false

/-- What is hidden is not shown again, whatever the backend says of its status. -/
lemma Withdrawn.survives (hfirst : first.Withdrawn index) (hsurvives : first.Survives last) :
    last.Withdrawn index := by
  have hcounter := hsurvives.counter
  refine ⟨UInt32.lt_of_lt_of_le hfirst.handedOut hcounter, fun entry hmem hindex => ?_⟩
  have hearlier : entry.index < first.nextIndex := hindex ▸ hfirst.handedOut
  obtain ⟨original, horiginal, hbecomes⟩ := hsurvives.exists_origin hmem hearlier
  exact hbecomes.hidden (hfirst.hidden original horiginal (hbecomes.index.symm.trans hindex))

/-- The index of an entry that is there has been handed out. -/
lemma lt_nextIndex_of_get {thread : Thread} {entry : Entry} (hordered : thread.Ordered)
    (hget : thread.get index = .ok entry) : index < thread.nextIndex := by
  rw [← index_of_get hget]
  exact hordered.below entry (mem_of_get hget)

lemma withdrawn_accept {thread : Thread} (hordered : thread.Ordered)
    (hindex : index < thread.nextIndex) :
    Withdrawn index (thread.modify index fun entry =>
      { entry with status := some .accepted, hidden := true }) := by
  refine ⟨hindex, fun entry hmem hsame => ?_⟩
  obtain ⟨original, rfl⟩ := hordered.exists_of_mem_modify hmem hsame
  rfl

lemma withdrawn_erase {thread : Thread} (hordered : thread.Ordered)
    (hindex : index < thread.nextIndex) : Withdrawn index (thread.erase index) :=
  ⟨hindex, fun _ hmem hsame => absurd hsame (hordered.index_ne_of_mem_erase hmem)⟩

lemma shut_reject {thread : Thread} (hordered : thread.Ordered) (hindex : index < thread.nextIndex) :
    Shut index (thread.modify index fun entry => { entry with status := some .rejected }) := by
  refine ⟨hindex, fun entry hmem hsame => ?_⟩
  obtain ⟨original, rfl⟩ := hordered.exists_of_mem_modify hmem hsame
  rfl

namespace Shut

/-- A change keeps an entry shut if it is another's or closes what it changes. -/
lemma modify (hfirst : first.Shut index) {target : UInt32} {change : Entry → Entry}
    (hsame : ∀ entry, (change entry).index = entry.index)
    (hchange : target = index → ∀ entry, (change entry).isOpen = false) :
    (first.modify target change).Shut index := by
  refine ⟨hfirst.handedOut, fun entry hmem hindex => ?_⟩
  rcases exists_of_mem_modify hmem with hmem | ⟨original, -, haddressed, rfl⟩
  · exact hfirst.shut entry hmem hindex
  · rw [hsame] at hindex
    exact hchange (haddressed.symm.trans hindex) original

/-- An entry that is appended has another index. -/
lemma append (hfirst : first.Shut index) (hordered : first.Ordered)
    (hfew : first.nextIndex.toNat + 1 < UInt32.size) (update : Update) (status? : Option Status) :
    ((first.append update).2.noting first.nextIndex status?).Shut index := by
  constructor
  · have hearlier := hfirst.handedOut
    rw [nextIndex_noting, nextIndex_append]
    rw [UInt32.lt_iff_toNat_lt] at hearlier ⊢
    rw [toNat_succ hfew]
    omega
  · intro entry hmem hindex
    rw [entries_noting_append hordered.index_ne_nextIndex, List.mem_append,
      List.mem_singleton] at hmem
    rcases hmem with hmem | rfl
    · exact hfirst.shut entry hmem hindex
    · have hearlier := hfirst.handedOut
      rw [← hindex] at hearlier
      exact absurd hearlier (UInt32.lt_irrefl _)

end Shut

end Thread

namespace Review

open Backend.Dialogue (Exchange Path)

/-! ## Events -/

/-- The command decides on the entry with an index or prepares the decision. -/
def Command.Decides (index : UInt32) : Command → Prop
  | .accept target | .retract target | .submitRejection target _ | .openRejectionPanel target _
  | .startRejection target => target = index
  | _ => False

namespace Event

/-- The entry was accepted or taken back. -/
def Withdraws (index : UInt32) (event : Event) : Prop :=
  (event.command = .accept index ∨ event.command = .retract index) ∧
    ∃ value, event.result = .ok value

/-- The entry was rejected. -/
def Rejects (index : UInt32) (event : Event) : Prop :=
  (∃ comment, event.command = .submitRejection index comment) ∧
    ∃ value, event.result = .ok value

/-- The status of the entry was looked up, and the backend said that it is open. -/
def Reopens (index : UInt32) (event : Event) : Prop :=
  event.command = .refreshStatus index ∧
    ∃ viewer updateId, event.exchanges = [⟨⟨viewer, .statusOf updateId⟩, .answered "open"⟩]

/-- The rules have refused, and nothing was sent. -/
def Refused (event : Event) : Prop :=
  event.exchanges = [] ∧ ∃ error, event.result = .error (.domain error)

end Event

/-! ## Refusals -/

section

variable {now next : View} {command : Command} {exchanges : List Exchange}
  {result : Except Error CommandResult} {index : UInt32}

/-- Nothing is decided on an entry that is not open and shown. -/
lemma refused_of_course (hcourse : Course now command exchanges result next)
    (hdecides : command.Decides index)
    (hclosed : ∀ entry ∈ now.thread.entries, entry.index = index → entry.isLive = false) :
    (⟨command, exchanges, result⟩ : Event).Refused := by
  have hrefused : ∀ {target : UInt32} {action : Action} {entry : Entry}, target = index →
      now.actionable target action ≠ .ok entry := by
    rintro target action entry rfl hentry
    obtain ⟨hget, hlive, -⟩ := View.actionable_eq_ok_iff.mp hentry
    have hnot := hclosed entry (Thread.mem_of_get hget) (Thread.index_of_get hget)
    rw [hlive] at hnot
    cases hnot
  have hunsent : ∀ {target : UInt32} {comment : String} {reply}, target = index →
      now.rejectionReply target comment ≠ .ok reply := by
    rintro target comment ⟨update, submission⟩ htarget hreply
    obtain ⟨panel, entry, -, hentry, -⟩ := View.rejectionReply_eq_ok hreply
    exact hrefused htarget hentry
  cases hcourse with
  | refused hcheck => exact ⟨rfl, _, rfl⟩
  | rejectionOpened hentry => exact absurd hentry (hrefused hdecides)
  | rejectionStarted hentry => exact absurd hentry (hrefused hdecides)
  | rejectionBrokeDown hreply => exact absurd hreply (hunsent hdecides)
  | rejectionFailed hreply => exact absurd hreply (hunsent hdecides)
  | rejectionSaved hreply => exact absurd hreply (hunsent hdecides)
  | acceptFailed hentry => exact absurd hentry (hrefused hdecides)
  | accepted hentry => exact absurd hentry (hrefused hdecides)
  | retractFailed hentry => exact absurd hentry (hrefused hdecides)
  | retracted hentry => exact absurd hentry (hrefused hdecides)
  | _ => exact hdecides.elim

/-- An entry that was accepted or taken back is hidden or gone. -/
lemma withdrawn_of_course (hcourse : Course now command exchanges result next)
    (hordered : now.thread.Ordered)
    (hevent : (⟨command, exchanges, result⟩ : Event).Withdraws index) :
    next.thread.Withdrawn index := by
  obtain ⟨hcommand, value, hresult⟩ := hevent
  obtain rfl : result = .ok value := hresult
  rcases hcommand with hcommand | hcommand
  · obtain rfl : command = .accept index := hcommand
    cases hcourse with
    | accepted hentry =>
      obtain ⟨hget, -⟩ := View.actionable_eq_ok_iff.mp hentry
      exact Thread.withdrawn_accept hordered (Thread.lt_nextIndex_of_get hordered hget)
  · obtain rfl : command = .retract index := hcommand
    cases hcourse with
    | retracted hentry =>
      obtain ⟨hget, -⟩ := View.actionable_eq_ok_iff.mp hentry
      exact Thread.withdrawn_erase hordered (Thread.lt_nextIndex_of_get hordered hget)

/-- An entry that was rejected is not open. -/
lemma shut_of_course (hcourse : Course now command exchanges result next)
    (hordered : now.thread.Ordered)
    (hfew : now.thread.nextIndex.toNat + appendsOf (heard exchanges) < UInt32.size)
    (hevent : (⟨command, exchanges, result⟩ : Event).Rejects index) :
    next.thread.Shut index := by
  obtain ⟨⟨comment, hcommand⟩, value, hresult⟩ := hevent
  obtain rfl : command = .submitRejection index comment := hcommand
  cases hcourse with
  | refused => cases hresult
  | rejectionBrokeDown => cases hresult
  | rejectionFailed => cases hresult
  | @rejectionSaved _ _ _ submission saved _ _ _ _ hreply rejected hget hlookUp =>
    obtain ⟨status?, notice, hsettled, -⟩ := hlookUp.exists_settled
    obtain ⟨panel, entry, -, hentry, -⟩ := View.rejectionReply_eq_ok hreply
    obtain ⟨hfound, -⟩ := View.actionable_eq_ok_iff.mp hentry
    have hrejected := Thread.shut_reject hordered (Thread.lt_nextIndex_of_get hordered hfound)
    have happended : (⟨⟨now.viewer, .submit submission⟩, .answered saved⟩ : Exchange).appends = 1 :=
      rfl
    rw [appendsOf_heard_reject, heard_answered, appendsOf_cons, happended] at hfew
    rw [hsettled]
    simp only [View.thread_reportingUnrejected]
    exact hrejected.append (hordered.modify index fun _ => rfl)
      (show now.thread.nextIndex.toNat + 1 < UInt32.size by omega) _ status?

/-- What was rejected stays shut unless it is looked up and found open. -/
lemma shut_of_change {before after : Thread} (hchange : Change before command exchanges after)
    (hbefore : before.Ordered)
    (hfew : before.nextIndex.toNat + appendsOf (heard exchanges) < UInt32.size)
    (hreopened : ¬(⟨command, exchanges, result⟩ : Event).Reopens index)
    (hshut : before.Shut index) : after.Shut index := by
  cases hchange with
  | kept => exact hshut
  | @noted target viewer updateId status =>
    refine hshut.modify (fun _ => rfl) ?_
    rintro rfl entry
    have hclosed : status ≠ .opened := by
      rintro rfl
      exact hreopened ⟨rfl, viewer, updateId, rfl⟩
    simp [Entry.isOpen, Status.isOpen, hclosed]
  | accepted => exact hshut.modify (fun _ => rfl) fun _ _ => rfl
  | retracted =>
    refine ⟨hshut.handedOut, fun entry hmem hindex => ?_⟩
    exact hshut.shut entry (List.mem_of_mem_eraseP hmem) hindex
  | edited hcount update status? =>
    rw [hcount] at hfew
    exact hshut.append hbefore hfew update status?
  | @replied target _ _ hcount update status? =>
    rw [hcount] at hfew
    have hrejected : (before.modify target fun entry =>
        { entry with status := some .rejected }).Shut index :=
      hshut.modify (fun _ => rfl) fun _ _ => rfl
    exact hrejected.append (hbefore.modify target fun _ => rfl) hfew update status?

/-- A run keeps an entry shut as long as none of its look-ups finds it open. -/
lemma shut_of_run {first last : View} {events : List Event} (hrun : Run first events last)
    (hfirst : first.thread.Ordered)
    (hfew : first.thread.nextIndex.toNat + appendsOf (trace events) < UInt32.size)
    (hreopened : ∀ event ∈ events, ¬event.Reopens index) (hshut : first.thread.Shut index) :
    last.thread.Shut index := by
  induction hrun with
  | nil => exact hshut
  | @cons first next last command exchanges result events head tail ih =>
    simp only [trace_cons, appendsOf_append] at hfew
    obtain ⟨hhead, hlater⟩ := List.forall_mem_cons.mp hreopened
    have hchange := change_of_course (course_of_path head)
    obtain ⟨hordered, hcounter⟩ := ordered_of_change hchange hfirst (by omega)
    have hnext := shut_of_change hchange hfirst (by omega) hhead hshut
    exact ih hordered (by omega) hlater hnext

end

/-- **An entry is resolved at most once.**  In a run after a mount, whatever the backend answers, an
entry is accepted, taken back or rejected.  From then on every command that decides on it is
refused and sends nothing: for good after an acceptance or a withdrawal, whatever look-ups find, and
after a rejection as long as no look-up has found the entry open. -/
theorem resolved_at_most_once {annotationId viewer text : String} {loading : List Exchange}
    {mounted last : View} {past between rest : List Event} {resolving later : Event}
    {index : UInt32} (hmount : Mounts annotationId viewer text loading mounted)
    (hrun : Run mounted (past ++ resolving :: (between ++ later :: rest)) last)
    (hfew : appendsOf (loading ++ trace (past ++ resolving :: (between ++ later :: rest))) <
      UInt32.size)
    (hresolved : resolving.Withdraws index ∨
      resolving.Rejects index ∧ ∀ event ∈ between, ¬event.Reopens index)
    (hdecides : later.command.Decides index) : later.Refused := by
  simp only [trace_append, trace_cons, appendsOf_append] at hfew
  obtain ⟨now, hpast, hrun⟩ := Run.append_iff.mp hrun
  cases hrun with
  | @cons _ next _ command exchanges result _ head tail =>
    obtain ⟨late, hbetween, hrun⟩ := Run.append_iff.mp tail
    cases hrun with
    | @cons _ _ _ lateCommand lateExchanges lateResult _ lateHead _ =>
      simp only at hfew hdecides
      -- up to the resolution the run keeps the order of the thread
      obtain ⟨hnow, hcounter⟩ := ordered_of_mounts hmount hpast (by omega)
      have hcourse := course_of_path head
      obtain ⟨hnext, hadvanced⟩ := ordered_of_change (change_of_course hcourse) hnow (by omega)
      -- and from there on it keeps the entry from being live
      refine refused_of_course (course_of_path lateHead) hdecides fun entry hmem hindex => ?_
      rcases hresolved with hwithdraws | ⟨hrejects, hreopened⟩
      · have hwithdrawn := withdrawn_of_course hcourse hnow hwithdraws
        obtain ⟨-, -, hsurvives⟩ := ordered_of_run hbetween hnext (by omega)
        have hlate := hwithdrawn.survives hsurvives
        rw [Entry.isLive, hlate.hidden entry hmem hindex, Bool.not_true, Bool.and_false]
      · have hshut := shut_of_course hcourse hnow (by omega) hrejects
        have hlate := shut_of_run hbetween hnext (by omega) hreopened hshut
        rw [Entry.isLive, hlate.shut entry hmem hindex, Bool.false_and]

/-- Once an edit is taken back it cannot be taken back again. -/
theorem withdrawn_once : Event.Refused
    ⟨.retract 0, [], .error (.domain (.notFound "ThreadEntry" "0"))⟩ := by
  have hmount := mounts_without_updates "A1" "author" "list files"
  have hrefused : Path ((Command.retract 0).operation withdrawn) []
      (.error (.domain (.notFound "ThreadEntry" "0")),
        withdrawn.reporting (.domain (.notFound "ThreadEntry" "0"))) :=
    path_of_course (.refused rfl)
  have hrun : Run (.fresh "A1" "author" "list files")
      ([⟨.openEditPanel .naturalLanguage "Why?", _, _⟩,
        ⟨.submitEdit "list all files" "hidden ones too", _, _⟩] ++
        ⟨.retract 0, _, _⟩ :: ([] ++ ⟨.retract 0, _, _⟩ :: [])) _ :=
    .cons path_editing (.cons path_proposed (.cons path_withdrawn (.cons hrefused (.nil _))))
  have hwithdraws : Event.Withdraws 0 ⟨.retract 0, [⟨⟨"author", .retract "U1"⟩, .answered ()⟩],
      .ok .done⟩ := ⟨.inr rfl, .done, rfl⟩
  exact resolved_at_most_once hmount hrun (by decide) (.inl hwithdraws) rfl

end Review

end AnnotationReview
