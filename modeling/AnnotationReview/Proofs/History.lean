import AnnotationReview.Proofs.Run

/-!
# The history of a thread

What a mount and the commands after it make of a thread: the courses leave six kinds of change
(`Change`), each of them is a step that keeps the thread ordered, and along a run the steps add up
to the history of the thread (`thread_history`).  This is said of runs that append fewer than
`UInt32.size` entries, so that the counter of indices does not start over.
-/

namespace AnnotationReview

namespace Thread

/-! ## Listed updates -/

variable {before : Thread}

/-- The indices along a thread. -/
def indices (thread : Thread) : List Nat :=
  thread.entries.map fun entry => entry.index.toNat

lemma indices_unmarked (thread : Thread) : thread.unmarked.indices = thread.indices := by
  rw [indices, unmarked, List.map_map]
  rfl

/-- Listed updates are appended in their order under the next indices. -/
lemma ordered_appendListed (listed : List Backend.Listed) (hbefore : before.Ordered)
    (hfew : before.nextIndex.toNat + listed.length < UInt32.size) :
    (Review.appendListed listed before).2.Ordered ∧
      (Review.appendListed listed before).2.nextIndex.toNat =
        before.nextIndex.toNat + listed.length ∧
      (Review.appendListed listed before).2.indices =
        before.indices ++ List.range' before.nextIndex.toNat listed.length := by
  induction listed generalizing before with
  | nil => exact ⟨hbefore, rfl, (List.append_nil _).symm⟩
  | cons first more ih =>
    rw [List.length_cons] at hfew ⊢
    have hevolves : before.Evolves none _ (before.append (.ofListed first)).2 :=
      evolves_of_append hbefore (.nothing _) rfl (by omega) (.ofListed first) none
    have hcounter : (before.append (.ofListed first)).2.nextIndex.toNat =
        before.nextIndex.toNat + 1 := hevolves.counter
    have hindices : (before.append (.ofListed first)).2.indices =
        before.indices ++ [before.nextIndex.toNat] := by simp [indices]
    obtain ⟨hordered, hnext, hmore⟩ := ih (hevolves.ordered hbefore) (by omega)
    refine ⟨hordered, hnext.trans (by omega), hmore.trans ?_⟩
    rw [hindices, hcounter, List.range'_succ, List.append_assoc, List.singleton_append]

/-- Order does not depend on statuses. -/
lemma ordered_unmarked {thread : Thread} : thread.unmarked.Ordered ↔ thread.Ordered := by
  have hindices : thread.unmarked.entries.map Entry.index = thread.entries.map Entry.index := by
    rw [unmarked, List.map_map]
    rfl
  constructor
  · rintro ⟨hincreasing, hbelow⟩
    refine ⟨hindices ▸ hincreasing, fun entry hmem => ?_⟩
    exact hbelow entry.unmarked (List.mem_map_of_mem hmem)
  · rintro ⟨hincreasing, hbelow⟩
    refine ⟨hindices ▸ hincreasing, fun entry hmem => ?_⟩
    obtain ⟨original, horiginal, rfl⟩ := List.mem_map.mp hmem
    exact hbelow original horiginal

end Thread

namespace Review

open Backend (Call Outcome)
open Backend.Dialogue (Exchange Path)

/-- The entry that a command is about, if it is about one that is there already. -/
def Command.addressed? : Command → Option UInt32
  | .submitRejection index _ | .refreshStatus index | .accept index | .retract index => some index
  | _ => none

/-- What the courses of a command leave of the thread. -/
inductive Change (before : Thread) : Command → List Exchange → Thread → Prop where
  | kept {command : Command} {exchanges : List Exchange}
      (hcount : appendsOf (heard exchanges) = 0) :
      Change before command exchanges before
  | noted {index : UInt32} {viewer updateId : String} (status : Status) :
      Change before (.refreshStatus index)
        [⟨⟨viewer, .statusOf updateId⟩, .answered status.name⟩]
        (before.noting index (some status))
  | accepted {index : UInt32} {exchanges : List Exchange}
      (hcount : appendsOf (heard exchanges) = 0) :
      Change before (.accept index) exchanges (before.modify index fun entry =>
        { entry with status := some .accepted, hidden := true })
  | retracted {index : UInt32} {exchanges : List Exchange}
      (hcount : appendsOf (heard exchanges) = 0) :
      Change before (.retract index) exchanges (before.erase index)
  | edited {edited comment : String} {exchanges : List Exchange}
      (hcount : appendsOf (heard exchanges) = 1) (update : Update) (status? : Option Status) :
      Change before (.submitEdit edited comment) exchanges
        ((before.append update).2.noting before.nextIndex status?)
  | replied {index : UInt32} {comment : String} {exchanges : List Exchange}
      (hcount : appendsOf (heard exchanges) = 1) (update : Update) (status? : Option Status) :
      Change before (.submitRejection index comment) exchanges
        (((before.modify index fun entry =>
          { entry with status := some .rejected }).append update).2.noting before.nextIndex status?)

section

variable {now next : View} {command : Command} {exchanges : List Exchange}
  {result : Except Error CommandResult}

/-- A call that fails appends nothing. -/
lemma appendsOf_heard_of_failure {call : Call} {outcome : Outcome call.Answer} {error : Error}
    (hfailure : outcome.failure? = some error) : appendsOf (heard [⟨call, outcome⟩]) = 0 := by
  obtain ⟨viewer, query⟩ := call
  cases outcome with
  | answered answer => cases hfailure
  | failed failure => cases query <;> rfl
  | panicked message => rfl

lemma LookUp.appendsOf_heard {base after : View} {index : UInt32} {entry : Entry}
    {lookUps : List Exchange} {ending : Ending (Option Status)}
    (hlookUp : LookUp base index entry lookUps ending after) : appendsOf (heard lookUps) = 0 := by
  cases hlookUp <;> rfl

/-- Closing an update appends nothing, whether or not it succeeds. -/
lemma appendsOf_heard_reject (viewer updateId : String) (rejected : Except Backend.Error Unit)
    (exchanges : List Exchange) :
    appendsOf (heard (⟨⟨viewer, .reject updateId⟩, .ofExcept rejected⟩ :: exchanges)) =
      appendsOf (heard exchanges) := by
  cases rejected <;> exact Nat.zero_add _

/-- There is no other change to a thread. -/
lemma change_of_course (hcourse : Course now command exchanges result next) :
    Change now.thread command exchanges next.thread := by
  cases hcourse with
  | refreshed hget hlookUp =>
    obtain ⟨status?, notice, hsettled, hstatus⟩ := hlookUp.exists_settled
    rw [hsettled]
    cases status? with
    | none => exact .kept hlookUp.appendsOf_heard
    | some status =>
      rw [hstatus status rfl]
      exact .noted status
  | editFailed hedit hfailure =>
    exact .kept (appendsOf_heard_of_failure hfailure)
  | editSaved hedit hget hlookUp =>
    obtain ⟨status?, notice, hsettled, -⟩ := hlookUp.exists_settled
    rw [hsettled]
    refine .edited ?_ _ status?
    rw [heard_answered, appendsOf_cons, hlookUp.appendsOf_heard]
    rfl
  | rejectionBrokeDown => exact .kept rfl
  | rejectionFailed hreply rejected hfailure =>
    exact .kept ((appendsOf_heard_reject ..).trans (appendsOf_heard_of_failure hfailure))
  | rejectionSaved hreply rejected hget hlookUp =>
    obtain ⟨status?, notice, hsettled, -⟩ := hlookUp.exists_settled
    rw [hsettled]
    simp only [View.thread_reportingUnrejected]
    refine .replied ?_ _ status?
    rw [appendsOf_heard_reject, heard_answered, appendsOf_cons, hlookUp.appendsOf_heard]
    rfl
  | acceptFailed hentry hfailure =>
    exact .kept (appendsOf_heard_of_failure hfailure)
  | accepted => exact .accepted rfl
  | retractFailed hentry hfailure =>
    exact .kept (appendsOf_heard_of_failure hfailure)
  | retracted => exact .retracted rfl
  | _ => exact .kept rfl

/-- While indices last, one command does to a thread what `Thread.Evolves` says. -/
lemma exists_evolves {before after : Thread} (hchange : Change before command exchanges after)
    (hbefore : before.Ordered)
    (hfew : before.nextIndex.toNat + appendsOf (heard exchanges) < UInt32.size) :
    ∃ appended?, before.Evolves command.addressed? appended? after ∧
      appended?.toList.length = appendsOf (heard exchanges) := by
  cases hchange with
  | kept hcount =>
    exact ⟨none, Thread.evolves_of_touches (.nothing _) rfl, hcount.symm⟩
  | noted status =>
    refine ⟨none, Thread.evolves_of_touches ?_ rfl, rfl⟩
    exact Thread.touches_modify (fun entry => .setStatus entry _) before _
  | accepted hcount =>
    refine ⟨none, Thread.evolves_of_touches ?_ rfl, hcount.symm⟩
    refine Thread.touches_modify (fun entry => ?_) before _
    exact ⟨rfl, rfl, fun _ => rfl⟩
  | retracted hcount =>
    refine ⟨none, Thread.evolves_of_touches ?_ rfl, hcount.symm⟩
    exact Thread.touches_erase before _
  | edited hcount update status? =>
    rw [hcount] at hfew
    exact ⟨_, Thread.evolves_of_append hbefore (.nothing _) rfl hfew update status?, hcount.symm⟩
  | @replied index _ _ hcount update status? =>
    rw [hcount] at hfew
    have htouches : Touches (some index) before.entries (before.modify index fun entry =>
        { entry with status := some .rejected }).entries :=
      Thread.touches_modify (fun entry => .setStatus entry _) before index
    refine ⟨_, Thread.evolves_of_append ?_ htouches rfl hfew update status?, hcount.symm⟩
    exact hbefore.modify index fun _ => rfl

/-- A command keeps the order, and the counter moves on with what is appended. -/
lemma ordered_of_change {before after : Thread} (hchange : Change before command exchanges after)
    (hbefore : before.Ordered)
    (hfew : before.nextIndex.toNat + appendsOf (heard exchanges) < UInt32.size) :
    after.Ordered ∧
      after.nextIndex.toNat = before.nextIndex.toNat + appendsOf (heard exchanges) := by
  obtain ⟨appended?, hevolves, hcount⟩ := exists_evolves hchange hbefore hfew
  exact ⟨hevolves.ordered hbefore, by rw [hevolves.counter, hcount]⟩

end

/-! ## What a mount hands out -/

lemma MountedAs.ordered {annotationId viewer text : String} {loading : List Exchange} {view : View}
    (hmounted : MountedAs annotationId viewer text loading view)
    (hfew : appendsOf loading < UInt32.size) :
    view.thread.Ordered ∧ view.thread.nextIndex.toNat = appendsOf loading ∧
      view.thread.indices = List.range (appendsOf loading) := by
  obtain ⟨listed, hlisted, hcount⟩ := hmounted.listed
  rw [hcount] at hfew ⊢
  have hempty : Thread.empty.Ordered := ⟨List.Pairwise.nil, by simp [Thread.empty]⟩
  obtain ⟨hordered, hnext, hindices⟩ := Thread.ordered_appendListed listed hempty
    (by simpa [Thread.empty] using hfew)
  rw [← hlisted] at hordered hnext hindices
  refine ⟨Thread.ordered_unmarked.mp hordered, ?_, ?_⟩
  · simpa [Thread.empty, Thread.unmarked] using hnext
  · rw [Thread.indices_unmarked] at hindices
    simpa [Thread.empty, Thread.indices, List.range_eq_range'] using hindices

/-- Along a run that appends few entries, threads stay ordered, the counter counts what was
appended, and what is left of the first thread is there at the end. -/
lemma ordered_of_run {first last : View} {events : List Event} (hrun : Run first events last)
    (hfirst : first.thread.Ordered)
    (hfew : first.thread.nextIndex.toNat + appendsOf (trace events) < UInt32.size) :
    last.thread.Ordered ∧
      last.thread.nextIndex.toNat = first.thread.nextIndex.toNat + appendsOf (trace events) ∧
      first.thread.Survives last.thread := by
  induction hrun with
  | nil view => exact ⟨hfirst, rfl, .refl view.thread⟩
  | @cons first next last command exchanges result events head tail ih =>
    simp only [trace_cons, appendsOf_append] at hfew ⊢
    have hchange := change_of_course (course_of_path head)
    obtain ⟨hordered, hcounter⟩ := ordered_of_change hchange hfirst (by omega)
    obtain ⟨appended?, hevolves, -⟩ := exists_evolves hchange hfirst (by omega)
    obtain ⟨hlast, hnext, hsurvives⟩ := ih hordered (by omega)
    exact ⟨hlast, by omega, hevolves.survives.trans hsurvives⟩

/-- At any moment after a mount the thread is ordered, and the counter tells how many entries were
appended. -/
lemma ordered_of_mounts {annotationId viewer text : String} {loading : List Exchange}
    {mounted now : View} {past : List Event}
    (hmount : Mounts annotationId viewer text loading mounted) (hpast : Run mounted past now)
    (hfew : appendsOf loading + appendsOf (trace past) < UInt32.size) :
    now.thread.Ordered ∧
      now.thread.nextIndex.toNat = appendsOf loading + appendsOf (trace past) := by
  obtain ⟨hmounted, hloaded, -⟩ := (mountedAs_of_mounts hmount).ordered (by omega)
  obtain ⟨hnow, hcounter, -⟩ := ordered_of_run hpast hmounted (by omega)
  exact ⟨hnow, by omega⟩

/-- **The history of a thread.**  Take a mount, any commands after it, one more command and any
commands after that, which together append fewer than `UInt32.size` entries, whatever the backend
answers.  An entry is appended for what a command lives to hear of (`heard`): a reply that was saved
while the call beside it broke down has none.  The mount has handed out the first indices.  Before
and after the one command the thread is ordered, and its counter is the number of entries appended
since the mount.  The command changes or takes out no entry but the one it addresses, and appends one
entry at most, under the next index.  Whatever is left at the end of the entries there were before
the command is what it was, in the same order, and what was hidden is still hidden; every other entry
has an index that had not been handed out then. -/
theorem thread_history {annotationId viewer text : String} {loading exchanges : List Exchange}
    {mounted now next last : View} {past future : List Event} {command : Command}
    {result : Except Error CommandResult}
    (hmount : Mounts annotationId viewer text loading mounted) (hpast : Run mounted past now)
    (hstep : Path (command.operation now) exchanges (result, next)) (hfuture : Run next future last)
    (hfew : appendsOf (loading ++ trace past ++ heard exchanges ++ trace future) < UInt32.size) :
    mounted.thread.indices = List.range (appendsOf loading) ∧
      (now.thread.Ordered ∧ now.thread.nextIndex.toNat = appendsOf (loading ++ trace past)) ∧
      (next.thread.Ordered ∧
        next.thread.nextIndex.toNat = appendsOf (loading ++ trace past ++ heard exchanges)) ∧
      (∃ appended?, now.thread.Evolves command.addressed? appended? next.thread ∧
        appended?.toList.length = appendsOf (heard exchanges)) ∧
      now.thread.Survives last.thread ∧ next.thread.Survives last.thread := by
  simp only [appendsOf_append] at hfew ⊢
  obtain ⟨-, -, hindices⟩ := (mountedAs_of_mounts hmount).ordered (by omega)
  obtain ⟨hnow, hcounter⟩ := ordered_of_mounts hmount hpast (by omega)
  have hchange := change_of_course (course_of_path hstep)
  obtain ⟨hnext, hadvanced⟩ := ordered_of_change hchange hnow (by omega)
  obtain ⟨appended?, hevolves, hcount⟩ := exists_evolves hchange hnow (by omega)
  obtain ⟨-, -, hsurvives⟩ := ordered_of_run hfuture hnext (by omega)
  exact ⟨hindices, ⟨hnow, hcounter⟩, ⟨hnext, by omega⟩, ⟨appended?, hevolves, hcount⟩,
    hevolves.survives.trans hsurvives, hsurvives⟩

/-- An edit that is proposed and taken back: its index is not handed out again. -/
theorem thread_history_withdrawn :
    (View.fresh "A1" "author" "list files").thread.indices = [] ∧
      (editing.thread.Ordered ∧ editing.thread.nextIndex.toNat = 0) ∧
      (proposed.thread.Ordered ∧ proposed.thread.nextIndex.toNat = 1) ∧
      (∃ appended?, editing.thread.Evolves none appended? proposed.thread ∧
        appended?.toList.length = 1) ∧
      editing.thread.Survives withdrawn.thread ∧ proposed.thread.Survives withdrawn.thread := by
  have hmount := mounts_without_updates "A1" "author" "list files"
  exact thread_history hmount (.cons path_editing (.nil editing)) path_proposed
    (.cons path_withdrawn (.nil withdrawn)) (by decide)

end Review

end AnnotationReview
