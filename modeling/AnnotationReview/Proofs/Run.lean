import AnnotationReview.Review.Run
import AnnotationReview.Proofs.Course
import AnnotationReview.Proofs.Since

/-!
# Runs and mounts

A statement about all runs comes from one about all courses: what every course keeps holds at the
end of a run if it holds at its start (`Run.inv`), and what courses switch on and off is told by the
events of the run (`Run.since_iff`).  Where a run starts is told by `MountedAs`: the view is fresh
but for its notice and its thread, the thread holds the updates that the backend listed, and
whatever the look-ups answered can only be seen in the statuses.

`appendsOf` counts on the side of the backend how many entries a thread receives from some
exchanges.  A command that is taken down by one of its calls does not hear of those that come after
it, which may have been under way at the same time, so that only what is `heard` of is counted.
-/

namespace AnnotationReview

/-- The entry with its status forgotten. -/
def Entry.unmarked (entry : Entry) : Entry :=
  { entry with status := none }

/-- The thread with all statuses forgotten. -/
def Thread.unmarked (thread : Thread) : Thread :=
  { thread with entries := thread.entries.map Entry.unmarked }

/-- A status that is recorded is forgotten again. -/
lemma Thread.unmarked_setStatus {thread marked : Thread} {index : UInt32} {status : Status}
    (hmarked : thread.setStatus index status = .ok marked) : marked.unmarked = thread.unmarked := by
  obtain ⟨entry, -, hmodified⟩ := bind_eq_ok_iff.mp hmarked
  cases hmodified
  exact congrArg (Thread.mk · thread.nextIndex)
    (Thread.map_entries_modify (fun _ => by rfl) thread index)

lemma Thread.unmarked_appendListed (listed : List Backend.Listed) (thread : Thread) :
    (Review.appendListed listed thread).2.unmarked =
      (Review.appendListed listed thread.unmarked).2 := by
  induction listed generalizing thread with
  | nil => rfl
  | cons first more ih =>
    have happend : (thread.append (.ofListed first)).2.unmarked =
        (thread.unmarked.append (.ofListed first)).2 := by
      simp [Thread.unmarked, Thread.append, Entry.unmarked]
    show (Review.appendListed more (thread.append _).2).2.unmarked =
      (Review.appendListed more (thread.unmarked.append _).2).2
    rw [ih, happend]

namespace Backend

/-- The question asks for a change on the side of the backend. -/
def Query.Mutates : Query → Prop
  | .accept _ | .reject _ | .retract _ | .submit _ => True
  | .statusOf _ | .updatesOf _ => False

/-- The call has ended and was not taken down. -/
def Outcome.hasEnded {α : Type} : Outcome α → Bool
  | .answered _ | .failed _ => true
  | .panicked _ => false

/-- The number of entries that a thread receives from an exchange: one for a submission that was
saved, and one for each update of a list. -/
def Dialogue.Exchange.appends : Dialogue.Exchange → Nat
  | ⟨⟨_, .submit _⟩, .answered _⟩ => 1
  | ⟨⟨_, .updatesOf _⟩, .answered listed⟩ => listed.length
  | _ => 0

end Backend

namespace Review

open Backend (Call Query)
open Backend.Dialogue (Exchange Path Together together_singleton_iff)

/-! ## Runs -/

/-- The number of entries that a thread receives from some exchanges. -/
def appendsOf : List Exchange → Nat
  | [] => 0
  | exchange :: exchanges => exchange.appends + appendsOf exchanges

@[simp] lemma appendsOf_nil : appendsOf [] = 0 := rfl

@[simp] lemma appendsOf_cons (exchange : Exchange) (exchanges : List Exchange) :
    appendsOf (exchange :: exchanges) = exchange.appends + appendsOf exchanges := rfl

@[simp] lemma appendsOf_append (front back : List Exchange) :
    appendsOf (front ++ back) = appendsOf front + appendsOf back := by
  induction front with
  | nil => simp
  | cons exchange front ih => simp [ih, Nat.add_assoc]

/-- Looking statuses up appends nothing. -/
lemma appendsOf_eq_zero {viewer : String} {exchanges : List Exchange}
    (hcalls : ∀ exchange ∈ exchanges, ∃ updateId, exchange.call = ⟨viewer, .statusOf updateId⟩) :
    appendsOf exchanges = 0 := by
  induction exchanges with
  | nil => rfl
  | cons exchange exchanges ih =>
    obtain ⟨hcall, hmore⟩ := List.forall_mem_cons.mp hcalls
    obtain ⟨call, outcome⟩ := exchange
    obtain ⟨updateId, rfl⟩ : ∃ updateId, call = ⟨viewer, .statusOf updateId⟩ := hcall
    rw [appendsOf_cons, ih hmore]
    rfl

/-- The exchanges that a command lives to hear of: those before the first call that is taken down,
and the command with it. -/
def heard (exchanges : List Exchange) : List Exchange :=
  exchanges.takeWhile fun exchange => exchange.outcome.hasEnded

@[simp] lemma heard_nil : heard [] = [] := rfl

@[simp] lemma heard_answered {call : Call} (answer : call.Answer) (exchanges : List Exchange) :
    heard (⟨call, .answered answer⟩ :: exchanges) = ⟨call, .answered answer⟩ :: heard exchanges :=
  rfl

@[simp] lemma heard_panicked (call : Call) (message : String) (exchanges : List Exchange) :
    heard (⟨call, .panicked message⟩ :: exchanges) = [] := rfl

@[simp] lemma heard_ofExcept {call : Call} (result : Except Backend.Error call.Answer)
    (exchanges : List Exchange) :
    heard (⟨call, .ofExcept result⟩ :: exchanges) =
      ⟨call, .ofExcept result⟩ :: heard exchanges := by
  cases result <;> rfl

/-- What was heard of in some events. -/
def trace (events : List Event) : List Exchange :=
  events.flatMap fun event => heard event.exchanges

@[simp] lemma trace_cons (event : Event) (events : List Event) :
    trace (event :: events) = heard event.exchanges ++ trace events := rfl

@[simp] lemma trace_append (front back : List Event) :
    trace (front ++ back) = trace front ++ trace back := by
  simp [trace]

namespace Run

variable {first last : View}

/-- A run can be cut anywhere. -/
lemma append_iff {front back : List Event} :
    Run first (front ++ back) last ↔ ∃ middle, Run first front middle ∧ Run middle back last := by
  constructor
  · intro hrun
    induction front generalizing first with
    | nil => exact ⟨first, .nil first, hrun⟩
    | cons event front ih =>
      cases hrun with
      | cons head tail =>
        obtain ⟨middle, hfront, hback⟩ := ih tail
        exact ⟨middle, .cons head hfront, hback⟩
  · rintro ⟨middle, hfront, hback⟩
    induction hfront with
    | nil => exact hback
    | cons head tail ih => exact .cons head (ih hback)

/-- What every course keeps is kept by every run. -/
lemma inv {P : View → Prop} {events : List Event} (hrun : Run first events last)
    (hkept : ∀ {now next : View} {command : Command} {exchanges : List Exchange}
      {result : Except Error CommandResult},
      Course now command exchanges result next → P now → P next)
    (hfirst : P first) : P last := by
  induction hrun with
  | nil => exact hfirst
  | cons head tail ih => exact ih (hkept (course_of_path head) hfirst)

/-- What every course switches on or off by its event holds at the end of a run if an event of the
run has turned it on since, or if it held at the start and no event has turned it off.  The switch
may rest on an invariant. -/
lemma since_iff {I P : View → Prop} {starts ends : Event → Prop} {events : List Event}
    (hrun : Run first events last)
    (hkept : ∀ {now next : View} {command : Command} {exchanges : List Exchange}
      {result : Except Error CommandResult},
      Course now command exchanges result next → I now → I next)
    (hswitch : ∀ {now next : View} {command : Command} {exchanges : List Exchange}
      {result : Except Error CommandResult},
      Course now command exchanges result next → I now →
        (P next ↔ starts ⟨command, exchanges, result⟩ ∨
          P now ∧ ¬ends ⟨command, exchanges, result⟩))
    (hfirst : I first) :
    P last ↔ Since starts ends events ∨ P first ∧ ∀ event ∈ events, ¬ends event := by
  induction hrun with
  | nil => simp
  | cons head tail ih =>
    have hcourse := course_of_path head
    exact (ih (hkept hcourse hfirst)).trans (since_cons_switch (hswitch hcourse hfirst))

end Run

/-! ## Reading statuses -/

/-- Only reading was asked for, and the view shows no more of it than statuses. -/
structure ReadsOnly (viewer : String) (now : View) (exchanges : List Exchange) (after : View) :
    Prop where
  view : ∃ thread, after = { now with thread } ∧ thread.unmarked = now.thread.unmarked
  appends : appendsOf exchanges = 0
  calls : ∀ exchange ∈ exchanges, exchange.call.viewer = viewer ∧ ¬exchange.call.query.Mutates

namespace ReadsOnly

variable {viewer : String} {α β : Type}

lemma refl (now : View) : ReadsOnly viewer now [] now :=
  ⟨⟨now.thread, rfl, rfl⟩, rfl, by simp⟩

lemma trans {first middle last : View} {front back : List Exchange}
    (hfront : ReadsOnly viewer first front middle) (hback : ReadsOnly viewer middle back last) :
    ReadsOnly viewer first (front ++ back) last := by
  obtain ⟨⟨marked, rfl, hmarked⟩, hfew, hfrontCalls⟩ := hfront
  obtain ⟨⟨thread, rfl, hthread⟩, hbackFew, hbackCalls⟩ := hback
  refine ⟨⟨thread, rfl, hthread.trans hmarked⟩, by rw [appendsOf_append, hfew, hbackFew], ?_⟩
  intro exchange hmem
  rcases List.mem_append.mp hmem with hmem | hmem
  · exact hfrontCalls exchange hmem
  · exact hbackCalls exchange hmem

/-- Two procedures in a row that only read make one that does. -/
lemma bind {p : Procedure α} {f : α → Procedure β}
    (hfirst : ∀ {now exchanges ending after}, Path (p now) exchanges (ending, after) →
      ReadsOnly viewer now exchanges after)
    (hthen : ∀ {value now exchanges ending after}, Path (f value now) exchanges (ending, after) →
      ReadsOnly viewer now exchanges after)
    {now after : View} {exchanges : List Exchange} {ending : Ending β}
    (hpath : Path ((p >>= f) now) exchanges (ending, after)) :
    ReadsOnly viewer now exchanges after := by
  obtain ⟨front, back, value, middle, rfl, hfront, hback⟩ | ⟨error, -, hfailed⟩ |
    ⟨message, -, haborted⟩ := Procedure.path_bind_cases hpath
  · exact (hfirst hfront).trans (hthen hback)
  · exact hfirst hfailed
  · exact hfirst haborted

variable {now after : View} {exchanges : List Exchange}

lemma of_lookUpAll {names : List (UInt32 × String)}
    {ending : Ending (List (UInt32 × Except Backend.Error String))}
    (hpath : Path (lookUpAll viewer names now) exchanges (ending, after)) :
    ReadsOnly viewer now exchanges after := by
  rw [lookUpAll, Procedure.putAll_bind] at hpath
  cases hpath with
  | @askAll _ _ lookUps _ _ ended htogether rest =>
    have hcalls : ∀ exchange ∈ lookUps,
        ∃ updateId, exchange.call = ⟨viewer, .statusOf updateId⟩ := by
      intro exchange hmem
      have hcall := List.mem_map_of_mem (f := Exchange.call) hmem
      rw [htogether.map_call] at hcall
      obtain ⟨name, -, hname⟩ := List.mem_map.mp hcall
      exact ⟨name.2, hname.symm⟩
    cases ended <;> cases rest
    all_goals
      rw [List.append_nil]
      refine ⟨⟨now.thread, rfl, rfl⟩, appendsOf_eq_zero hcalls, fun exchange hmem => ?_⟩
      obtain ⟨updateId, hcall⟩ := hcalls exchange hmem
      rw [hcall]
      exact ⟨rfl, id⟩

lemma of_recordStatus {index : UInt32} {word : String} {ending : Ending (Option Status)}
    (hpath : Path (recordStatus index word now) exchanges (ending, after)) :
    ReadsOnly viewer now exchanges after := by
  cases hword : Status.ofName? word with
  | none =>
    rw [recordStatus_of_unknown hword] at hpath
    cases hpath
    exact .refl now
  | some status =>
    rw [recordStatus, hword] at hpath
    change Path ((Procedure.view >>= _) now) _ _ at hpath
    rw [Procedure.view_bind] at hpath
    cases hmarked : now.thread.setStatus index status with
    | error error =>
      rw [hmarked, Procedure.check_error_bind] at hpath
      cases hpath
      exact .refl now
    | ok marked =>
      rw [hmarked, Procedure.check_ok_bind, Procedure.setView_bind] at hpath
      cases hpath
      exact ⟨⟨marked, rfl, Thread.unmarked_setStatus hmarked⟩, rfl, by simp⟩

lemma of_recordAll {results : List (UInt32 × Except Backend.Error String)}
    {ending : Ending (Option Backend.Error)}
    (hpath : Path (recordAll results now) exchanges (ending, after)) :
    ReadsOnly viewer now exchanges after := by
  induction results generalizing now exchanges ending after with
  | nil =>
    cases hpath
    exact .refl now
  | cons found results ih =>
    obtain ⟨index, error | word⟩ := found
    · refine bind ih (fun hdone => ?_) hpath
      cases hdone
      exact .refl _
    · exact bind of_recordStatus ih hpath

/-- What a mount does once the updates are listed. -/
lemma of_loadStatuses {names : List (UInt32 × String)} {ending : Ending Nat}
    (hpath : Path ((do
      let results ← lookUpAll viewer names
      match ← recordAll results with
      | none => return names.length
      | some error => Procedure.fail (.backend error) : Procedure Nat) now) exchanges
      (ending, after)) :
    ReadsOnly viewer now exchanges after := by
  refine bind of_lookUpAll (fun hrecords => bind of_recordAll (fun hdone => ?_) hrecords) hpath
  rename Option Backend.Error => failure?
  cases failure? <;> cases hdone <;> exact .refl _

end ReadsOnly

/-! ## Mounts -/

/-- What a mount that went through the exchanges has made of the view: some updates are listed and
appended, which the statuses that were recorded since do not show, and nothing but reading was
asked for. -/
structure MountedAs (annotationId viewer text : String) (exchanges : List Exchange)
    (view : View) : Prop where
  fresh : ∃ thread notice, view = { View.fresh annotationId viewer text with thread, notice }
  listed : ∃ listed, view.thread.unmarked = (appendListed listed .empty).2 ∧
    appendsOf exchanges = listed.length
  calls : ∀ exchange ∈ exchanges, exchange.call.viewer = viewer ∧ ¬exchange.call.query.Mutates

/-- A mount makes of any view what `MountedAs` says. -/
lemma mountedAs_of_mounts {annotationId viewer text : String} {exchanges : List Exchange}
    {view : View} (hmount : Mounts annotationId viewer text exchanges view) :
    MountedAs annotationId viewer text exchanges view := by
  obtain ⟨before, result, hpath⟩ := hmount
  obtain ⟨ending, after, hbody, rfl, rfl⟩ := path_settle_iff.mp hpath
  obtain ⟨notice, hsettled⟩ := Ending.exists_settled ending after
  rw [hsettled]
  rw [Procedure.setView_bind, loadThread, Procedure.view_bind, Procedure.require_bind] at hbody
  cases hbody with
  | @ask _ _ lookUps _ outcome hrest =>
    cases outcome with
    | failed error =>
      cases hrest
      exact ⟨⟨.empty, notice, rfl⟩, ⟨[], rfl, rfl⟩, by simp [View.fresh, Query.Mutates]⟩
    | panicked message =>
      cases hrest
      exact ⟨⟨.empty, notice, rfl⟩, ⟨[], rfl, rfl⟩, by simp [View.fresh, Query.Mutates]⟩
    | answered listed =>
      obtain ⟨⟨thread, hview, hthread⟩, hcount, hcalls⟩ := ReadsOnly.of_loadStatuses hrest
      rw [hview]
      refine ⟨⟨thread, notice, rfl⟩, ⟨listed, ?_, ?_⟩, ?_⟩
      · rw [hthread]
        exact Thread.unmarked_appendListed listed .empty
      · show listed.length + appendsOf lookUps = listed.length
        rw [hcount, Nat.add_zero]
      · intro exchange hmem
        rcases List.mem_cons.mp hmem with rfl | hmem
        · exact ⟨rfl, id⟩
        · exact hcalls exchange hmem

/-- An annotation without updates is mounted as a fresh view. -/
lemma mounts_without_updates (annotationId viewer text : String) :
    Mounts annotationId viewer text [⟨⟨viewer, .updatesOf annotationId⟩, .answered []⟩]
      (.fresh annotationId viewer text) := by
  refine ⟨.fresh annotationId viewer text, .ok 0, ?_⟩
  refine path_settle_iff.mpr ⟨.returned 0, _, ?_, rfl, rfl⟩
  rw [Procedure.setView_bind, loadThread, Procedure.view_bind, Procedure.require_bind]
  exact .ask _ (.askAll .none (.done _))

/-! ## Samples

The statements about runs are tried on two mounts.  In one the author finds an update of a judge to
be decided; in the other an edit is written, proposed and taken back by its proposer. -/

/-- An update of a judge is open. -/
def reviewing : View :=
  { View.fresh "A1" "author" "list files" with
    thread := ⟨[⟨0, ⟨"U1", "judge", "t1", "list all files", "lists hidden files too", .judger⟩,
      some .opened, false⟩], 1⟩ }

/-- The author may decide on the update. -/
lemma actionable_reviewing {action : Action} (hdecides : action ≠ .retract) :
    reviewing.actionable 0 action =
      .ok ⟨0, ⟨"U1", "judge", "t1", "list all files", "lists hidden files too", .judger⟩,
        some .opened, false⟩ := by
  cases action with
  | accept => rfl
  | reject => rfl
  | retract => exact absurd rfl hdecides

/-- The one update is looked up and found open. -/
lemma together_reviewing : Together [⟨"author", .statusOf "U1"⟩]
    [⟨⟨"author", .statusOf "U1"⟩, .answered "open"⟩] (.ok (.ok "open", ())) :=
  together_singleton_iff.mpr (.inl ⟨.ok "open", rfl, rfl⟩)

lemma mounts_reviewing : Mounts "A1" "author" "list files"
    [⟨⟨"author", .updatesOf "A1"⟩, .answered [⟨"U1", "author", "judge", "t1", "list all files",
        "lists hidden files too"⟩]⟩,
      ⟨⟨"author", .statusOf "U1"⟩, .answered "open"⟩] reviewing := by
  refine ⟨.fresh "A1" "author" "list files", .ok 1, ?_⟩
  refine path_settle_iff.mpr ⟨.returned 1, _, ?_, rfl, rfl⟩
  rw [Procedure.setView_bind, loadThread, Procedure.view_bind, Procedure.require_bind]
  exact .ask _ (.askAll together_reviewing (.done _))

/-- An edit is being written. -/
def editing : View :=
  { View.fresh "A1" "author" "list files" with
    display := .editing "list files"
    panels := ⟨[⟨.text, .changeAndComment .naturalLanguage, "Why?"⟩]⟩ }

/-- The edit awaits review. -/
def proposed : View :=
  { View.fresh "A1" "author" "list files" with
    editOffered := false
    thread := ⟨[⟨0, ⟨"U1", "author", "t1", "list all files", "hidden ones too", .judger⟩,
      some .opened, false⟩], 1⟩ }

/-- The edit is taken back. -/
def withdrawn : View :=
  { View.fresh "A1" "author" "list files" with thread := ⟨[], 1⟩ }

lemma proposedEdit_editing : editing.proposedEdit "list all files" "hidden ones too" =
    .ok (some ⟨"A1", "list all files", "hidden ones too", none⟩) := by
  rfl

lemma path_editing : Path ((Command.openEditPanel .naturalLanguage "Why?").operation
    (.fresh "A1" "author" "list files")) [] (.ok .done, editing) :=
  path_of_course (.editOpened rfl)

lemma path_proposed : Path ((Command.submitEdit "list all files" "hidden ones too").operation
    editing)
    [⟨⟨"author", .submit ⟨"A1", "list all files", "hidden ones too", none⟩⟩,
      .answered ⟨"U1", "author", "t1"⟩⟩, ⟨⟨"author", .statusOf "U1"⟩, .answered "open"⟩]
    (.ok (.edit (.submitted 0)), proposed) :=
  path_of_course (.editSaved proposedEdit_editing rfl (.recorded .opened))

lemma path_withdrawn : Path ((Command.retract 0).operation proposed)
    [⟨⟨"author", .retract "U1"⟩, .answered ()⟩] (.ok .done, withdrawn) := by
  have hentry : proposed.actionable 0 .retract =
      .ok ⟨0, ⟨"U1", "author", "t1", "list all files", "hidden ones too", .judger⟩,
        some .opened, false⟩ := by rfl
  exact path_of_course (.retracted hentry)

end Review

end AnnotationReview
