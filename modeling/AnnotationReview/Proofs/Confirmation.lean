import AnnotationReview.Proofs.Atomicity
import AnnotationReview.Proofs.Run

/-!
# What a view knows of statuses

A view should show what the backend has said: where a command changes the status of an entry or
takes the entry out, one of its calls was answered to that effect (`Follows`).  This is so with one
exception.  A rejection asks the backend to close the rejected update and sends the reply whether or
not that succeeds; if the reply is saved, the entry is marked rejected although the backend may have
refused to close it (`MarkedUnclosed`).
-/

namespace AnnotationReview

namespace Thread

/-! ## Entries after a step -/

/-- What becomes of the entries, each in its place, is among the possible: it is still there in some
form, or it is gone.  Entries may have been appended. -/
inductive Fates (possible : Entry → Option Entry → Prop) : List Entry → List Entry → Prop where
  | appended (entries : List Entry) : Fates possible [] entries
  | stays {early late : Entry} {before after : List Entry} (hfate : possible early (some late))
      (hrest : Fates possible before after) : Fates possible (early :: before) (late :: after)
  | gone {early : Entry} {before after : List Entry} (hfate : possible early none)
      (hrest : Fates possible before after) : Fates possible (early :: before) after

namespace Fates

variable {possible further both : Entry → Option Entry → Prop} {before middle after : List Entry}

lemma refl (hkept : ∀ entry, possible entry (some entry)) (entries : List Entry) :
    Fates possible entries entries := by
  induction entries with
  | nil => exact .appended []
  | cons entry rest ih => exact .stays (hkept entry) ih

lemma append (hfates : Fates possible before after) (more : List Entry) :
    Fates possible before (after ++ more) := by
  induction hfates with
  | appended entries => exact .appended (entries ++ more)
  | stays hfate _ ih => exact .stays hfate ih
  | gone hfate _ ih => exact .gone hfate ih

lemma mono (hfates : Fates possible before after)
    (hmore : ∀ {entry fate}, possible entry fate → further entry fate) :
    Fates further before after := by
  induction hfates with
  | appended entries => exact .appended entries
  | stays hfate _ ih => exact .stays (hmore hfate) ih
  | gone hfate _ ih => exact .gone (hmore hfate) ih

/-- Entries that are still there after one step meet a further fate in the next. -/
lemma trans (hfates : Fates possible before middle) (hlater : Fates further middle after)
    (hgone : ∀ {entry}, possible entry none → both entry none)
    (hstays : ∀ {entry left fate}, possible entry (some left) → further left fate →
      both entry fate) : Fates both before after := by
  induction hfates generalizing after with
  | appended => exact .appended after
  | stays hfate _ ih =>
    cases hlater with
    | stays hfurther hrest => exact .stays (hstays hfate hfurther) (ih hrest)
    | gone hfurther hrest => exact .gone (hstays hfate hfurther) (ih hrest)
  | gone hfate _ ih => exact .gone (hgone hfate) (ih hlater)

end Fates

/-- A change is made to the entry that is found under the index. -/
lemma fates_modify (thread : Thread) (index : UInt32) (change : Entry → Entry) :
    Fates (fun entry fate => fate = some entry ∨
        thread.find? index = some entry ∧ fate = some (change entry))
      thread.entries (thread.modify index change).entries := by
  obtain ⟨entries, next⟩ := thread
  induction entries with
  | nil => exact .appended []
  | cons first rest ih =>
    rw [modify_cons]
    split
    next haddressed =>
      have hfound : (⟨first :: rest, next⟩ : Thread).find? index = some first := by
        rw [find?_cons, if_pos haddressed]
      exact .stays (.inr ⟨hfound, rfl⟩) (.refl (fun _ => .inl rfl) rest)
    next hother =>
      simp only [find?_cons, if_neg hother]
      exact .stays (.inl rfl) ih

/-- The entry that is found under the index is taken out. -/
lemma fates_erase (thread : Thread) (index : UInt32) :
    Fates (fun entry fate => fate = some entry ∨ thread.find? index = some entry ∧ fate = none)
      thread.entries (thread.erase index).entries := by
  obtain ⟨entries, next⟩ := thread
  induction entries with
  | nil => exact .appended []
  | cons first rest ih =>
    rw [erase_cons]
    split
    next haddressed =>
      have hfound : (⟨first :: rest, next⟩ : Thread).find? index = some first := by
        rw [find?_cons, if_pos haddressed]
      exact .gone (.inr ⟨hfound, rfl⟩) (.refl (fun _ => .inl rfl) rest)
    next hother =>
      simp only [find?_cons, if_neg hother]
      exact .stays (.inl rfl) ih

end Thread

namespace Review

open Backend.Dialogue (Exchange Path)

/-! ## What the backend says -/

/-- What an answer tells of an update: its name, and its status or, if there is none, that the
update was taken back. -/
def told? : Exchange → Option (String × Option Status)
  | ⟨⟨_, .statusOf updateId⟩, .answered word⟩ =>
    (Status.ofName? word).map fun status => (updateId, some status)
  | ⟨⟨_, .accept updateId⟩, .answered _⟩ => some (updateId, some .accepted)
  | ⟨⟨_, .reject updateId⟩, .answered _⟩ => some (updateId, some .rejected)
  | ⟨⟨_, .retract updateId⟩, .answered _⟩ => some (updateId, none)
  | _ => none

/-- An entry has changed its status, or is gone, only as some exchange has told. -/
def Follows (exchanges : List Exchange) (entry : Entry) : Option Entry → Prop
  | none => ∃ exchange ∈ exchanges, told? exchange = some (entry.update.id, none)
  | some late => late.status = entry.status ∨ ∃ status, late.status = some status ∧
      ∃ exchange ∈ exchanges, told? exchange = some (entry.update.id, some status)

/-- The entry was open and is marked rejected by a command that rejects it, although the backend has
failed to close the update and was not heard to call it rejected. -/
structure MarkedUnclosed (command : Command) (exchanges : List Exchange) (entry : Entry)
    (late? : Option Entry) : Prop where
  command : ∃ comment, command = .submitRejection entry.index comment
  opened : entry.status = some .opened
  failed : ∃ viewer error, ⟨⟨viewer, .reject entry.update.id⟩, .failed error⟩ ∈ exchanges
  marked : ∃ late ∈ late?, late.status = some .rejected
  untold : ∀ exchange ∈ exchanges, told? exchange ≠ some (entry.update.id, some .rejected)

section

variable {now next : View} {command : Command} {exchanges : List Exchange}
  {result : Except Error CommandResult} {entry : Entry}

lemma Follows.mono {more : List Exchange} {late? : Option Entry}
    (hfollows : Follows exchanges entry late?) (hmore : exchanges ⊆ more) :
    Follows more entry late? := by
  cases late? with
  | none => exact hfollows.imp fun exchange htold => ⟨hmore htold.1, htold.2⟩
  | some late =>
    refine hfollows.imp id ?_
    rintro ⟨status, hstatus, exchange, hmem, htold⟩
    exact ⟨status, hstatus, exchange, hmore hmem, htold⟩

/-- What is marked without having been told does not follow the backend. -/
lemma MarkedUnclosed.not_follows {late? : Option Entry}
    (hmarked : MarkedUnclosed command exchanges entry late?) : ¬Follows exchanges entry late? := by
  obtain ⟨-, hopened, -, ⟨late, rfl, hrejected⟩, huntold⟩ := hmarked
  rintro (hsame | ⟨status, hstatus, exchange, hmem, htold⟩)
  · rw [hrejected, hopened] at hsame
    cases hsame
  · obtain rfl : Status.rejected = status := Option.some.inj (hrejected.symm.trans hstatus)
    exact huntold exchange hmem htold

/-- The entry is still the same one, if it is there, and has followed the backend. -/
def FollowsAs (exchanges : List Exchange) (entry : Entry) (fate : Option Entry) : Prop :=
  (∀ late ∈ fate, entry.Becomes late) ∧ Follows exchanges entry fate

lemma FollowsAs.kept (exchanges : List Exchange) (entry : Entry) :
    FollowsAs exchanges entry (some entry) :=
  ⟨by rintro _ ⟨⟩; exact .refl entry, .inl rfl⟩

lemma told?_recorded (viewer updateId : String) (status : Status) :
    told? ⟨⟨viewer, .statusOf updateId⟩, .answered status.name⟩ = some (updateId, some status) := by
  simp [told?, Status.ofName?_name]

/-- A look-up changes the status of an entry to what it was told, and of no other, and it takes
none out. -/
lemma LookUp.fates {base after : View} {target : UInt32} {looked : Entry}
    {lookUps : List Exchange} {ending : Ending (Option Status)}
    (hlookUp : LookUp base target looked lookUps ending after)
    (hget : base.thread.get target = .ok looked) :
    Thread.Fates (FollowsAs lookUps) base.thread.entries (ending.settled after).thread.entries := by
  obtain ⟨status?, notice, hsettled, htold⟩ := hlookUp.exists_settled
  rw [hsettled]
  cases status? with
  | none => exact .refl (.kept lookUps) base.thread.entries
  | some status =>
    refine (base.thread.fates_modify target _).mono ?_
    rintro entry fate (rfl | ⟨hfound, rfl⟩)
    · exact .kept lookUps entry
    · obtain rfl : looked = entry := by
        rw [Thread.get_eq_ok_iff, hfound] at hget
        exact (Option.some.inj hget).symm
      refine ⟨by rintro _ ⟨⟩; exact .setStatus looked _, .inr ⟨status, rfl, _, ?_,
        told?_recorded base.viewer looked.update.id status⟩⟩
      rw [htold status rfl]
      exact List.mem_cons_self

/-- The entry that an action may be taken on is the one with the index, and it is open. -/
lemma eq_of_actionable {index : UInt32} {action : Action} {found : Entry}
    (hactionable : now.actionable index action = .ok found)
    (hentry : now.thread.find? index = some entry) :
    found = entry ∧ entry.status = some .opened := by
  obtain ⟨hget, hlive, -⟩ := View.actionable_eq_ok_iff.mp hactionable
  rw [Thread.get_eq_ok_iff, hentry] at hget
  cases hget
  exact ⟨rfl, (Entry.isLive_iff.mp hlive).1⟩

/-- The entry that is rejected, once it is marked and the reply to it was looked up. -/
lemma follows_of_marked {index : UInt32} {comment : String} {late? : Option Entry}
    (hindex : entry.index = index) (hopened : entry.status = some .opened) {viewer : String}
    (rejected : Except Backend.Error Unit)
    (hclosing : ⟨⟨viewer, .reject entry.update.id⟩, .ofExcept rejected⟩ ∈ exchanges)
    (hfollows : Follows exchanges { entry with status := some .rejected } late?) :
    Follows exchanges entry late? ∨
      MarkedUnclosed (.submitRejection index comment) exchanges entry late? := by
  cases late? with
  | none => exact .inl hfollows
  | some late =>
    rcases hfollows with hstatus | htold
    · -- the look-up has left the mark alone, so it is for the closing to have told of it
      by_cases htold : ∃ exchange ∈ exchanges,
          told? exchange = some (entry.update.id, some .rejected)
      · exact .inl (.inr ⟨.rejected, hstatus, htold⟩)
      · cases rejected with
        | ok => exact absurd ⟨_, hclosing, rfl⟩ htold
        | error error =>
          exact .inr ⟨⟨comment, hindex ▸ rfl⟩, hopened, ⟨viewer, error, hclosing⟩,
            ⟨late, rfl, hstatus⟩, fun exchange hmem hmine => htold ⟨exchange, hmem, hmine⟩⟩
    · exact .inl (.inr htold)

/-- Statuses follow the backend, but for the entry that a rejection marks without its update being
closed. -/
lemma fates_of_course (hcourse : Course now command exchanges result next) :
    Thread.Fates (fun entry fate => (∀ late ∈ fate, entry.Becomes late) ∧
        (Follows exchanges entry fate ∨ MarkedUnclosed command exchanges entry fate))
      now.thread.entries next.thread.entries := by
  have hfollowed : ∀ {entry : Entry} {fate : Option Entry}, FollowsAs exchanges entry fate →
      (∀ late ∈ fate, entry.Becomes late) ∧
        (Follows exchanges entry fate ∨ MarkedUnclosed command exchanges entry fate) :=
    fun hfollows => hfollows.imp id .inl
  have hkept : ∀ entry : Entry, (∀ late ∈ some entry, entry.Becomes late) ∧
      (Follows exchanges entry (some entry) ∨
        MarkedUnclosed command exchanges entry (some entry)) :=
    fun entry => hfollowed (.kept exchanges entry)
  cases hcourse with
  | refreshed hget hlookUp => exact (hlookUp.fates hget).mono hfollowed
  | @editSaved _ _ submission saved _ lookUps _ _ hedit hget hlookUp =>
    have hsame : Thread.Fates (fun entry fate => fate = some entry) now.thread.entries
        now.thread.entries := .refl (fun _ => by rfl) now.thread.entries
    refine (hsame.append _).trans (hlookUp.fates hget) (by rintro _ ⟨⟩) ?_
    rintro entry left fate ⟨⟩ hfollows
    exact hfollowed (hfollows.imp id (·.mono (List.subset_cons_self _ _)))
  | @rejectionSaved index comment _ submission saved _ lookUps _ _ hreply rejected hget hlookUp =>
    obtain ⟨panel, found, -, hactionable, -, rfl, -⟩ := View.rejectionReply_eq_ok hreply
    rw [← View.thread_reportingUnrejected _ found.update.id rejected] at hget
    have hreplied := (now.thread.fates_modify index fun entry =>
      { entry with status := some .rejected }).append
        [⟨now.thread.nextIndex, .ofSaved saved submission .author, none, false⟩]
    have hlookedUp := hlookUp.fates hget
    rw [View.thread_reportingUnrejected] at hlookedUp
    refine hreplied.trans hlookedUp (by rintro _ (hnone | ⟨-, hnone⟩) <;> cases hnone) ?_
    have hmore : lookUps ⊆ ⟨⟨now.viewer, .reject found.update.id⟩, .ofExcept rejected⟩ ::
        ⟨⟨now.viewer, .submit submission⟩, .answered saved⟩ :: lookUps :=
      fun _ hmem => List.mem_cons_of_mem _ (List.mem_cons_of_mem _ hmem)
    rintro entry left fate (hsame | ⟨hentry, hmarked⟩) ⟨hbecomes, hfollows⟩
    · cases hsame
      exact hfollowed ⟨hbecomes, hfollows.mono hmore⟩
    · cases hmarked
      obtain ⟨rfl, hopened⟩ := eq_of_actionable hactionable hentry
      refine ⟨fun late hlate => (Entry.Becomes.setStatus found _).trans (hbecomes late hlate), ?_⟩
      exact follows_of_marked (Thread.index_of_find? hentry) hopened rejected List.mem_cons_self
        (hfollows.mono hmore)
  | @accepted index found hactionable answer =>
    refine (now.thread.fates_modify index _).mono ?_
    rintro entry fate (rfl | ⟨hentry, rfl⟩)
    · exact hkept entry
    · obtain ⟨rfl, -⟩ := eq_of_actionable hactionable hentry
      exact hfollowed ⟨by rintro _ ⟨⟩; exact ⟨rfl, rfl, fun _ => rfl⟩,
        .inr ⟨.accepted, rfl, _, List.mem_cons_self, rfl⟩⟩
  | @retracted index found hactionable =>
    refine (now.thread.fates_erase index).mono ?_
    rintro entry fate (rfl | ⟨hentry, rfl⟩)
    · exact hkept entry
    · obtain ⟨rfl, -⟩ := eq_of_actionable hactionable hentry
      exact hfollowed ⟨by rintro _ ⟨⟩, _, List.mem_cons_self, rfl⟩
  | _ => exact .refl hkept now.thread.entries

end

/-- **Statuses follow the backend, with one exception.**  On any view, with any outcomes of its
calls, a command leaves every entry in its place, or takes it out, and appends at most.  It changes
the status of an entry to what one of these calls was told, and takes an entry out where its
withdrawal was confirmed; all but one: a rejection whose reply was saved marks the entry also where
the backend has failed to close the update. -/
theorem statuses_follow_iff {now next : View} {command : Command} {exchanges : List Exchange}
    {result : Except Error CommandResult}
    (hpath : Path (command.operation now) exchanges (result, next)) :
    Thread.Fates (fun entry fate => (∀ late ∈ fate, entry.Becomes late) ∧
        (Follows exchanges entry fate ↔ ¬MarkedUnclosed command exchanges entry fate))
      now.thread.entries next.thread.entries := by
  refine (fates_of_course (course_of_path hpath)).mono ?_
  rintro entry fate ⟨hbecomes, hfollows⟩
  exact ⟨hbecomes, fun hfollows hmarked => hmarked.not_follows hfollows, hfollows.resolve_right⟩

/-- The update of a judge is accepted, as the backend has said. -/
theorem statuses_follow_acceptance :
    Follows [⟨⟨"author", .accept "U1"⟩, .answered ⟨"list all files", none⟩⟩]
      ⟨0, ⟨"U1", "judge", "t1", "list all files", "lists hidden files too", .judger⟩,
        some .opened, false⟩
      ((reviewing.accepted 0 ⟨"list all files", none⟩).thread.find? 0) := by
  have hfates := statuses_follow_iff
    (path_of_course (.accepted (actionable_reviewing nofun) ⟨"list all files", none⟩))
  have hmarked : ∀ {entry fate}, ¬MarkedUnclosed (.accept 0)
      [⟨⟨"author", .accept "U1"⟩, .answered ⟨"list all files", none⟩⟩] entry fate := by
    rintro entry fate ⟨⟨comment, ⟨⟩⟩, -⟩
  cases hfates with
  | stays hfate _ => exact hfate.2.mpr hmarked
  | gone hfate _ =>
    -- an entry that is accepted is not gone
    obtain ⟨exchange, hmem, htold⟩ := hfate.2.mpr hmarked
    obtain rfl := List.mem_singleton.mp hmem
    cases htold

lemma path_rejecting : Path ((Command.openRejectionPanel 0 "why?").operation reviewing) []
    (.ok .done, rejecting) :=
  path_of_course (.rejectionOpened (actionable_reviewing nofun))

/-- The backend refuses to close an update and saves the reply to it. -/
def halfRejection : List Exchange :=
  [⟨⟨"author", .reject "U1"⟩, .failed (.refused 500 "boom")⟩,
    ⟨⟨"author", .submit ⟨"A1", "list files", "hidden files are noise", some "U1"⟩⟩,
      .answered ⟨"U2", "author", "t2"⟩⟩,
    ⟨⟨"author", .statusOf "U2"⟩, .answered "open"⟩]

/-- The update is marked rejected although the backend has not said so. -/
theorem half_rejection_not_followed : ∃ entry next, Reachable rejecting ∧
    rejecting.thread.find? 0 = some entry ∧
    Path ((Command.submitRejection 0 "hidden files are noise").operation rejecting) halfRejection
      (.ok (.reply 1), next) ∧
    (next.thread.find? 0).map Entry.status = some (some .rejected) ∧
    ¬Follows halfRejection entry (next.thread.find? 0) := by
  have hreachable : Reachable rejecting :=
    ⟨"A1", "author", "list files", _, reviewing, _, mounts_reviewing,
      .cons path_rejecting (.nil rejecting)⟩
  have hsaved : ∃ next, Course rejecting (.submitRejection 0 "hidden files are noise") halfRejection
      (.ok (.reply 1)) next ∧ (next.thread.find? 0).map Entry.status = some (some .rejected) :=
    ⟨_, .rejectionSaved rejectionReply_rejecting (.error (.refused 500 "boom")) rfl
      (.recorded .opened), rfl⟩
  obtain ⟨next, hcourse, hrejected⟩ := hsaved
  refine ⟨_, next, hreachable, rfl, path_of_course hcourse, hrejected, ?_⟩
  obtain ⟨late, hlate, hstatus⟩ := Option.map_eq_some_iff.mp hrejected
  rw [hlate]
  rintro (hsame | ⟨status, -, exchange, hmem, htold⟩)
  · rw [hstatus] at hsame
    cases hsame
  · have huntold : ∀ exchange ∈ halfRejection, told? exchange = none ∨
        told? exchange = some ("U2", some .opened) := by
      simp [halfRejection, told?, Status.ofName?]
    rcases huntold exchange hmem with hnone | hother
    · rw [hnone] at htold
      cases htold
    · rw [hother] at htold
      simp at htold

end Review

end AnnotationReview
