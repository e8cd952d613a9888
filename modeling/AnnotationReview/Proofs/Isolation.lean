import AnnotationReview.Proofs.Confinement

/-!
# Pairs of a viewer and an annotation are isolated

What is done for a pair neither changes what another pair sees nor can be told from what is done
when there is nobody else.  A deed for a pair is confined to it (`occurs_only`), so that a run, cut
down to one pair, is a run of a server that serves that pair alone (`exists_own`).  A run is
determined by what is done and by what the backend answers (`run_unique`), so that there is no
other.
-/

namespace AnnotationReview.Host

open Backend (Dialogue)
open Backend.Dialogue (Exchange Path)
open Registry (Moves Unchanged)

/-! ## What concerns a pair -/

/-- The event is addressed to a pair. -/
def Event.isFor (key : SlotKey) (event : Event) : Bool :=
  event.deed.address? == some key

/-- The event is not addressed to another pair.  One that is addressed to nobody, as the question
how the host is, concerns every pair. -/
def Event.concerns (key : SlotKey) (event : Event) : Bool :=
  event.deed.address?.all (· == key)

/-- What is done, and when. -/
def schedule (events : List Event) : List (Nat × Deed) :=
  events.map fun event => (event.now, event.deed)

@[simp] lemma schedule_cons (event : Event) (events : List Event) :
    schedule (event :: events) = (event.now, event.deed) :: schedule events := rfl

/-- All calls of some events with their outcomes. -/
def trace (events : List Event) : List Exchange :=
  events.flatMap Event.exchanges

/-- The calls put for a pair with their outcomes. -/
def traceFor (key : SlotKey) (events : List Event) : List Exchange :=
  trace (events.filter (·.isFor key))

/-- Where the same call is put it ends in the same way. -/
def SameReplies (first second : List Exchange) : Prop :=
  ∀ (i : Nat) (one other : Exchange), first[i]? = some one → second[i]? = some other →
    one.call = other.call → one = other

/-! ## Deeds -/

variable {before after first last : Server} {event : Event} {events : List Event} {key : SlotKey}

/-- A deed for a pair is confined to it. -/
lemma occurs_only (hoccurs : Occurs before event after) (hsound : before.registry.Sound)
    (haddress : event.deed.address? = some key) :
    after.settings = before.settings ∧ Moves key before.registry after.registry ∧
      Occurs (before.only key) event (after.only key) := by
  cases hoccurs with
  | @mounted now named text exchanges slot registry hpath =>
    obtain rfl := Option.some.inj haddress
    obtain ⟨hslot, hmoves, hown⟩ := Registry.mount_only hsound hpath
    have hreply : Occurs (before.only named) _ _ := .mounted hown
    rw [Registry.handleOf_only, Registry.view?_only hslot] at hreply
    exact ⟨rfl, hmoves, hreply⟩
  | @lookedUp now named slot registry hfound =>
    obtain rfl := Option.some.inj haddress
    obtain ⟨hslot, hmoves⟩ := Registry.moves_handle hsound hfound
    have hown := Registry.handle_only hsound now named
    rw [hfound] at hown
    have hreply : Occurs (before.only named) _ _ := .lookedUp hown
    rw [Registry.handleOf_only, Registry.view?_only hslot] at hreply
    exact ⟨rfl, hmoves, hreply⟩
  | @notFound now named error hmissing =>
    obtain rfl := Option.some.inj haddress
    have hown := Registry.handle_only hsound now named
    rw [hmissing] at hown
    exact ⟨rfl, .refl hsound named, .notFound hown⟩
  | @unmounted now named found registry hremoved =>
    obtain rfl := Option.some.inj haddress
    have hown := Registry.remove_only before.registry named
    have hmoves := Registry.moves_remove hsound named
    rw [hremoved] at hown hmoves
    exact ⟨rfl, hmoves, .unmounted hown⟩
  | @command now handle command exchanges slot result registry hslot hpath =>
    obtain rfl := Option.some.inj haddress
    obtain ⟨hmoves, hown⟩ := Registry.confined_perform hsound hslot.1
      (Review.keeps_command command handle.key) hpath
    have hreply : Occurs (before.only handle.key) ⟨now, _, _, _⟩ _ := .command hslot.only hown
    rw [← hmoves.rank_eq hslot.1, Registry.view?_only (hmoves.keys_eq hslot.1)] at hreply
    exact ⟨rfl, hmoves, hreply⟩
  | request hpath =>
    obtain ⟨hsettings, hmoves, hown⟩ := handle_only hsound haddress hpath
    exact ⟨hsettings, hmoves, .request hown⟩

/-- A deed that is addressed to nobody puts no calls, leaves the server alone and can be done
anywhere. -/
lemma occurs_of_unaddressed (hoccurs : Occurs before event after)
    (haddress : event.deed.address? = none) :
    after = before ∧ event.exchanges = [] ∧
      ∀ server, ∃ reply, Occurs server ⟨event.now, event.deed, [], reply⟩ server := by
  cases hoccurs with
  | @request now request exchanges response _ hpath =>
    have hdone := handle_of_unaddressed haddress now
    obtain ⟨told, hhandle⟩ := hdone before
    rw [hhandle] at hpath
    cases hpath
    refine ⟨rfl, rfl, fun server => ?_⟩
    obtain ⟨told, hhandle⟩ := hdone server
    exact ⟨.response told, .request (hhandle ▸ .done _)⟩
  | _ => cases haddress

/-- A deed for one pair, or for none, leaves every other pair as it was. -/
lemma unchanged_of_occurs {other : SlotKey} (hoccurs : Occurs before event after)
    (hsound : before.registry.Sound) (haddress : event.deed.address? ≠ some other) :
    after.settings = before.settings ∧ Unchanged other before.registry after.registry := by
  cases hkey : event.deed.address? with
  | none =>
    obtain ⟨rfl, -, -⟩ := occurs_of_unaddressed hoccurs hkey
    exact ⟨rfl, .refl other _⟩
  | some key =>
    obtain ⟨hsettings, hmoves, -⟩ := occurs_only hoccurs hsound hkey
    refine ⟨hsettings, hmoves.others other ?_⟩
    rintro rfl
    exact haddress hkey

lemma sound_of_occurs (hoccurs : Occurs before event after) (hsound : before.registry.Sound) :
    after.registry.Sound := by
  cases hkey : event.deed.address? with
  | none =>
    obtain ⟨rfl, -, -⟩ := occurs_of_unaddressed hoccurs hkey
    exact hsound
  | some key =>
    obtain ⟨-, hmoves, -⟩ := occurs_only hoccurs hsound hkey
    exact hmoves.sound

lemma sound_of_run (hrun : Run first events last) (hsound : first.registry.Sound) :
    last.registry.Sound := by
  induction hrun with
  | nil => exact hsound
  | cons head tail ih => exact ih (sound_of_occurs head hsound)

/-! ## The run of one pair -/

/-- A run without the deeds for others is a run of the server that serves one pair. -/
lemma exists_own (hrun : Run first events last) (hsound : first.registry.Sound) (key : SlotKey) :
    ∃ own, Run (first.only key) own (last.only key) ∧
      schedule own = schedule (events.filter (·.concerns key)) ∧
      own.filter (·.isFor key) = events.filter (·.isFor key) := by
  induction hrun with
  | nil server => exact ⟨[], .nil _, rfl, rfl⟩
  | @cons first next last event events head tail ih =>
    obtain ⟨own, hown, hschedule, hsame⟩ := ih (sound_of_occurs head hsound)
    cases haddress : event.deed.address? with
    | none =>
      -- a deed for nobody stays, but what it tells may depend on what others have mounted
      obtain ⟨rfl, -, hanywhere⟩ := occurs_of_unaddressed head haddress
      obtain ⟨reply, hevent⟩ := hanywhere (next.only key)
      have hfor : event.isFor key = false := by simp [Event.isFor, haddress]
      have hforOwn : Event.isFor key ⟨event.now, event.deed, [], reply⟩ = false := hfor
      refine ⟨⟨event.now, event.deed, [], reply⟩ :: own, .cons hevent hown, ?_, ?_⟩
      · simp [Event.concerns, haddress, hschedule]
      · simp [hfor, hforOwn, hsame]
    | some named =>
      by_cases hnamed : named = key
      · obtain ⟨-, -, hevent⟩ := occurs_only head hsound (haddress.trans (congrArg some hnamed))
        have hfor : event.isFor key = true := by simp [Event.isFor, haddress, hnamed]
        refine ⟨event :: own, .cons hevent hown, ?_, ?_⟩
        · simp [Event.concerns, haddress, hnamed, hschedule]
        · simp [hfor, hsame]
      · -- a deed for another pair is left out; seen from this pair nothing has happened
        have hother : event.deed.address? ≠ some key := by simp [haddress, hnamed]
        obtain ⟨hsettings, hunchanged⟩ := unchanged_of_occurs head hsound hother
        have hnext : next.only key = first.only key :=
          congrArg₂ Server.mk hsettings hunchanged.slots
        rw [hnext] at hown
        have hfor : event.isFor key = false := by simp [Event.isFor, haddress, hnamed]
        refine ⟨own, hown, ?_, ?_⟩
        · simp [Event.concerns, haddress, hnamed, hschedule]
        · simp [hfor, hsame]

/-! ## There is no other run -/

lemma SameReplies.tail {exchange : Exchange} {first second : List Exchange}
    (hsame : SameReplies (exchange :: first) (exchange :: second)) : SameReplies first second :=
  fun i one other hone hother => hsame (i + 1) one other hone hother

lemma SameReplies.drop {front first second : List Exchange}
    (hsame : SameReplies (front ++ first) (front ++ second)) : SameReplies first second := by
  induction front with
  | nil => exact hsame
  | cons exchange front ih => exact ih hsame.tail

/-- The same calls with the same replies are the same exchanges. -/
lemma SameReplies.eq_of_calls {front back more rest : List Exchange}
    (hsame : SameReplies (front ++ more) (back ++ rest))
    (hcalls : front.map Exchange.call = back.map Exchange.call) : front = back := by
  induction front generalizing back with
  | nil => exact (List.map_eq_nil_iff.mp hcalls.symm).symm
  | cons exchange front ih =>
    cases back with
    | nil => cases hcalls
    | cons other back =>
      obtain ⟨hcall, hothers⟩ := List.cons.inj hcalls
      obtain rfl := hsame 0 exchange other rfl rfl hcall
      rw [ih hsame.tail hothers]

/-- A dialogue that gets the same replies goes the same way. -/
lemma path_unique {α : Type} {dialogue : Dialogue α} {front back more rest : List Exchange}
    {value other : α} (hfront : Path dialogue front value) (hback : Path dialogue back other)
    (hsame : SameReplies (front ++ more) (back ++ rest)) : front = back ∧ value = other := by
  induction hfront generalizing back with
  | done value =>
    cases hback
    exact ⟨rfl, rfl⟩
  | @ask call next exchanges value outcome hrest ih =>
    cases hback with
    | ask outcome hothers =>
      have heq := hsame 0 _ _ rfl rfl rfl
      cases heq
      obtain ⟨rfl, rfl⟩ := ih hothers hsame.tail
      exact ⟨rfl, rfl⟩
  | askAll htogether hrest ih =>
    cases hback with
    | askAll hothers hlater =>
      rw [List.append_assoc, List.append_assoc] at hsame
      obtain rfl := hsame.eq_of_calls (htogether.map_call.trans hothers.map_call.symm)
      obtain rfl := htogether.unique hothers
      obtain ⟨rfl, rfl⟩ := ih hlater hsame.drop
      exact ⟨rfl, rfl⟩

/-- A deed whose calls get the same replies comes to the same end. -/
lemma occurs_unique {other : Event} {left : Server} {more rest : List Exchange}
    (hoccurs : Occurs before event after) (hother : Occurs before other left)
    (hnow : event.now = other.now) (hdeed : event.deed = other.deed)
    (hsame : SameReplies (event.exchanges ++ more) (other.exchanges ++ rest)) :
    event = other ∧ after = left := by
  cases hoccurs with
  | mounted hpath =>
    cases hother <;> cases hdeed
    rename_i hpathOther
    cases hnow
    obtain ⟨rfl, heq⟩ := path_unique hpath hpathOther hsame
    cases heq
    exact ⟨rfl, rfl⟩
  | lookedUp hfound =>
    cases hother <;> cases hdeed <;> cases hnow
    · rename_i hfoundOther
      cases hfound.symm.trans hfoundOther
      exact ⟨rfl, rfl⟩
    · rename_i hmissing
      cases hfound.symm.trans hmissing
  | notFound hmissing =>
    cases hother <;> cases hdeed <;> cases hnow
    · rename_i hfound
      cases hmissing.symm.trans hfound
    · rename_i hmissingOther
      cases hmissing.symm.trans hmissingOther
      exact ⟨rfl, rfl⟩
  | unmounted hremoved =>
    cases hother <;> cases hdeed
    rename_i hremovedOther
    cases hnow
    cases hremoved.symm.trans hremovedOther
    exact ⟨rfl, rfl⟩
  | command hslot hpath =>
    cases hother <;> cases hdeed
    rename_i hslotOther hpathOther
    cases hnow
    obtain rfl := hslot.unique hslotOther
    obtain ⟨rfl, heq⟩ := path_unique hpath hpathOther hsame
    cases heq
    exact ⟨rfl, rfl⟩
  | request hpath =>
    cases hother <;> cases hdeed
    rename_i hpathOther
    cases hnow
    obtain ⟨rfl, heq⟩ := path_unique hpath hpathOther hsame
    cases heq
    exact ⟨rfl, rfl⟩

/-- What is done and what the backend answers determine a run. -/
lemma run_unique {others : List Event} {left : Server} (hrun : Run first events last)
    (hother : Run first others left) (hschedule : schedule events = schedule others)
    (hsame : SameReplies (trace events) (trace others)) : events = others ∧ last = left := by
  induction hrun generalizing others with
  | nil server =>
    cases hother with
    | nil => exact ⟨rfl, rfl⟩
    | cons => cases hschedule
  | cons head tail ih =>
    cases hother with
    | nil => cases hschedule
    | cons headOther tailOther =>
      rw [schedule_cons, schedule_cons] at hschedule
      obtain ⟨hhead, htail⟩ := List.cons.inj hschedule
      obtain ⟨hnow, hdeed⟩ := Prod.mk.inj hhead
      obtain ⟨rfl, rfl⟩ := occurs_unique head headOther hnow hdeed hsame
      obtain ⟨rfl, rfl⟩ := ih tailOther htail hsame.drop
      exact ⟨rfl, rfl⟩

/-- A deed that is done on a schedule without the deeds for others is not for others. -/
lemma concerns_of_schedule {own : List Event}
    (hschedule : schedule own = schedule (events.filter (·.concerns key))) (hmem : event ∈ own) :
    event.concerns key = true := by
  have hscheduled : (event.now, event.deed) ∈ schedule own := List.mem_map_of_mem hmem
  rw [hschedule] at hscheduled
  obtain ⟨found, hfound, heq⟩ := List.mem_map.mp hscheduled
  have hconcerns := (List.mem_filter.mp hfound).2
  rw [Event.concerns, (Prod.mk.inj heq).2] at hconcerns
  exact hconcerns

/-- Where nothing is done for others, the only calls are those for the pair. -/
lemma trace_eq_traceFor (hrun : Run first events last)
    (hconcerns : ∀ event ∈ events, event.concerns key = true) :
    trace events = traceFor key events := by
  induction hrun with
  | nil => rfl
  | @cons first next last event events head tail ih =>
    have hrest := ih fun event hmem => hconcerns event (List.mem_cons_of_mem _ hmem)
    have hhead := hconcerns event List.mem_cons_self
    cases haddress : event.deed.address? with
    | none =>
      obtain ⟨-, hnothing, -⟩ := occurs_of_unaddressed head haddress
      have hfor : event.isFor key = false := by simp [Event.isFor, haddress]
      rw [traceFor, List.filter_cons_of_neg (by simp [hfor])]
      show event.exchanges ++ trace events = traceFor key events
      rw [hnothing, hrest, List.nil_append]
    | some named =>
      have hfor : event.isFor key = true := by
        simpa [Event.isFor, Event.concerns, haddress] using hhead
      rw [traceFor, List.filter_cons_of_pos hfor]
      exact congrArg (event.exchanges ++ ·) hrest

/-! ## Isolation -/

/-- What isolation says of events that have led from the start to the last server. -/
structure Isolated (start : Server) (events : List Event) (last : Server) : Prop where
  /-- Whatever is done next leaves the pairs alone that it is not addressed to. -/
  unchanged : ∀ {event : Event} {next : Server} {other : SlotKey}, Occurs last event next →
    event.deed.address? ≠ some other → Unchanged other last.registry next.registry
  /-- Without the deeds for others all can go as it went for a pair. -/
  possible : ∀ key, ∃ own left, Run start own left ∧
    schedule own = schedule (events.filter (·.concerns key)) ∧
    own.filter (·.isFor key) = events.filter (·.isFor key)
  /-- It cannot go otherwise for the pair if the calls for it get the same replies. -/
  determined : ∀ {key : SlotKey} {own : List Event} {left : Server}, Run start own left →
    schedule own = schedule (events.filter (·.concerns key)) →
    SameReplies (traceFor key events) (traceFor key own) →
    own.filter (·.isFor key) = events.filter (·.isFor key)
  /-- Pairs that reach the same slot are the same. -/
  apart : ∀ {one other : SlotKey} {slot : SlotId}, last.registry.Reaches one slot →
    last.registry.Reaches other slot →
    one.viewer = other.viewer ∧ one.annotationId = other.annotationId

lemma key_of_reaches {registry : Registry} {slot : SlotId} (hsound : registry.Sound)
    (hreaches : registry.Reaches key slot) : registry.keys[slot]? = some key := by
  rcases hreaches with hfind | ⟨rank, hholds⟩
  · exact hsound hfind
  · exact hholds.1

/-- **Viewers and annotations are isolated.** Let anything be mounted, looked up, unmounted, worked
on by the handles that were given and requested, by any viewers and for any annotations, and let the
backend answer as it likes.  Then no deed changes the mount or a slot of a pair that it is not
addressed to.  What a pair is told and which calls are put for it, the views and pages that it gets
included, is what it would be without the deeds for other pairs, provided that its own calls get
the same replies.  And only a pair with the same viewer and the same annotation reaches a slot of
it. -/
theorem pairs_isolated {settings : Settings} (hrun : Run ⟨settings, .empty⟩ events last) :
    Isolated ⟨settings, .empty⟩ events last := by
  have hsound : last.registry.Sound := sound_of_run hrun Registry.sound_empty
  have hown := exists_own hrun Registry.sound_empty
  refine ⟨fun hoccurs haddress => (unchanged_of_occurs hoccurs hsound haddress).2,
    fun key => ?_, ?_, ?_⟩
  · obtain ⟨own, hrunOwn, hschedule, hsame⟩ := hown key
    exact ⟨own, last.only key, hrunOwn, hschedule, hsame⟩
  · intro key own left hrunOther hscheduleOther hreplies
    obtain ⟨cut, hcut, hschedule, hsame⟩ := hown key
    have htrace : trace cut = traceFor key events := by
      rw [trace_eq_traceFor hcut fun event hmem => concerns_of_schedule hschedule hmem, traceFor,
        hsame, traceFor]
    have htraceOther : trace own = traceFor key own :=
      trace_eq_traceFor hrunOther fun event hmem => concerns_of_schedule hscheduleOther hmem
    rw [← htrace, ← htraceOther] at hreplies
    obtain ⟨rfl, -⟩ :=
      run_unique hcut hrunOther (hschedule.trans hscheduleOther.symm) hreplies
    exact hsame
  · intro one other slot hone hother
    have heq : some one = some other :=
      (key_of_reaches hsound hone).symm.trans (key_of_reaches hsound hother)
    obtain rfl := Option.some.inj heq
    exact ⟨rfl, rfl⟩

/-! A judge has an annotation mounted that its author has mounted too.  What the judge gets does not
tell that the author was there. -/

/-- Settings that name no origins. -/
def plainSettings : Settings :=
  ⟨"0.0.0.0", 3000, [], 30, "http://localhost:8000", 10, 3600⟩

def authorPair : SlotKey := ⟨"author", "A1"⟩

def judgePair : SlotKey := ⟨"judge", "A1"⟩

/-- The view of an annotation that has just been mounted and has no updates. -/
def mountedView (pair : SlotKey) : View :=
  .fresh pair.annotationId pair.viewer "list files"

/-- The first mount for a pair. -/
def mountedFor (pair : SlotKey) (now : Nat) : Event :=
  ⟨now, .mount pair "list files",
    [⟨⟨pair.viewer, .updatesOf pair.annotationId⟩, .answered []⟩],
    .handle ⟨pair, 0⟩ (some (mountedView pair))⟩

/-- The judge looks at what is mounted. -/
def inspected : Event :=
  ⟨4, .command ⟨judgePair, 0⟩ .inspect, [], .result (.ok .done) (some (mountedView judgePair))⟩

/-- The author leaves before the judge goes on. -/
def sharing : List Event :=
  [mountedFor authorPair 1, mountedFor judgePair 2, ⟨3, .unmount authorPair, [], .unmounted true⟩,
    inspected]

def authorMounted : Server :=
  ⟨plainSettings, ⟨[⟨mountedView authorPair, 1⟩], [(authorPair, 0)]⟩⟩

def bothMounted : Server :=
  ⟨plainSettings, ⟨[⟨mountedView authorPair, 1⟩, ⟨mountedView judgePair, 2⟩],
    [(authorPair, 0), (judgePair, 1)]⟩⟩

def authorGone : Server :=
  ⟨plainSettings, ⟨[⟨mountedView authorPair, 1⟩, ⟨mountedView judgePair, 2⟩], [(judgePair, 1)]⟩⟩

lemma run_sharing : Run ⟨plainSettings, .empty⟩ sharing authorGone := by
  have hauthor : Path ((Server.mk plainSettings .empty).registry.mount 1 authorPair "list files")
      [⟨⟨"author", .updatesOf "A1"⟩, .answered []⟩] (0, authorMounted.registry) :=
    .ask _ (.askAll .none (.done _))
  have hjudge : Path (authorMounted.registry.mount 2 judgePair "list files")
      [⟨⟨"judge", .updatesOf "A1"⟩, .answered []⟩] (1, bothMounted.registry) :=
    .ask _ (.askAll .none (.done _))
  have hremoved : bothMounted.registry.remove authorPair = (true, authorGone.registry) := by decide
  have hslot : authorGone.registry.Holds ⟨judgePair, 0⟩ 1 := ⟨by decide, by decide⟩
  have hlook : Path (authorGone.registry.perform 1 Review.Command.inspect.operation) []
      (.ok .done, authorGone.registry) :=
    .done _
  have hfirst : Occurs ⟨plainSettings, .empty⟩ (mountedFor authorPair 1) authorMounted :=
    .mounted hauthor
  have hsecond : Occurs authorMounted (mountedFor judgePair 2) bothMounted := .mounted hjudge
  have hthird : Occurs bothMounted ⟨3, .unmount authorPair, [], .unmounted true⟩ authorGone :=
    .unmounted hremoved
  have hfourth : Occurs authorGone inspected authorGone := .command hslot hlook
  exact .cons hfirst (.cons hsecond (.cons hthird (.cons hfourth (.nil authorGone))))

/-- Served alone, and with the same answer to the one call, the judge gets the same. -/
theorem judge_served_as_alone : Run ⟨plainSettings, .empty⟩ sharing authorGone ∧
    ∀ own left, Run ⟨plainSettings, .empty⟩ own left →
      schedule own = schedule [mountedFor judgePair 2, inspected] →
      SameReplies [⟨⟨"judge", .updatesOf "A1"⟩, .answered []⟩] (traceFor judgePair own) →
      own.filter (·.isFor judgePair) = [mountedFor judgePair 2, inspected] := by
  refine ⟨run_sharing, fun own left hown hschedule hreplies => ?_⟩
  have hconcerns : sharing.filter (·.concerns judgePair) = [mountedFor judgePair 2, inspected] := rfl
  have hfor : sharing.filter (·.isFor judgePair) = [mountedFor judgePair 2, inspected] := rfl
  rw [← hconcerns] at hschedule
  rw [← hfor]
  refine (pairs_isolated run_sharing).determined hown hschedule ?_
  rw [traceFor, hfor]
  exact hreplies

end AnnotationReview.Host
