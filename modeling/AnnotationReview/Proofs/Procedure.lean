import AnnotationReview.Review.Command
import Mathlib.Tactic.Lemma

/-!
# Carrying procedures out

What a procedure does is read off its text one step at a time.  The equations of the first part
carry a step out: looking at the view, checking a rule and putting a call each leave the rest of
the procedure to go on with.  The second part takes a path through two procedures in a row apart.
The third says how an ending is settled, which is the same for an operation and for an attempt
inside one.
-/

namespace AnnotationReview

/-- The view with a notice that reports an error. -/
def View.reporting (view : View) (error : Review.Error) : View :=
  { view with notice := some error.notice }

/-- The error of a call that was not answered. -/
def Backend.Outcome.failure? {α : Type} : Outcome α → Option Review.Error
  | .answered _ => none
  | .failed error => some (.backend error)
  | .panicked message => some (Review.abortion message)

end AnnotationReview

namespace AnnotationReview.Review

open Backend (Answers Call Dialogue Outcome)
open Backend.Dialogue (Exchange Path path_bind_iff)

variable {α β : Type}

namespace Procedure

/-! ## Single steps -/

lemma view_bind (f : View → Procedure β) (now : View) : (view >>= f) now = f now now := rfl

lemma setView_bind (next : View) (f : Unit → Procedure β) (now : View) :
    (setView next >>= f) now = f () next := rfl

lemma check_ok_bind (value : α) (f : α → Procedure β) (now : View) :
    (check (.ok value) >>= f) now = f value now := rfl

lemma check_error_bind (error : DomainError) (f : α → Procedure β) (now : View) :
    (check (.error error) >>= f) now = .done (.failed (.domain error), now) := rfl

lemma expect_ok_bind (value : α) (f : α → Procedure β) (now : View) :
    (expect (.ok value) >>= f) now = f value now := rfl

/-- Whatever they come to, calls that are put together leave the view alone. -/
lemma putAll_bind (calls : List Call) (f : Answers calls → Procedure β) (now : View) :
    (putAll calls >>= f) now = .askAll calls fun
      | .ok answers => f answers now
      | .error message => .done (.aborted message, now) := by
  refine congrArg (Dialogue.askAll calls) (funext fun ended => ?_)
  cases ended <;> rfl

/-- A call that has to be answered ends the procedure where it is not. -/
lemma require_bind (call : Call) (f : call.Answer → Procedure β) (now : View) :
    (require call >>= f) now = .ask call fun
      | .answered answer => f answer now
      | .failed error => .done (.failed (.backend error), now)
      | .panicked message => .done (.aborted message, now) := by
  refine congrArg (Dialogue.ask call) (funext fun outcome => ?_)
  cases outcome <;> rfl

/-! ## Procedures in a row -/

/-- A procedure that is carried out without a call is gone on with at once. -/
lemma bind_of_returned {p : Procedure α} {value : α} {now next : View}
    (hp : p now = .done (.returned value, next)) (f : α → Procedure β) :
    (p >>= f) now = f value next := by
  show (p now).bind _ = _
  rw [hp]
  rfl

/-- A path through two procedures in a row either goes through both or ends in the first. -/
lemma path_bind_cases {p : Procedure α} {f : α → Procedure β} {now after : View}
    {exchanges : List Exchange} {ending : Ending β}
    (hpath : Path ((p >>= f) now) exchanges (ending, after)) :
    (∃ front back value middle, exchanges = front ++ back ∧
        Path (p now) front (.returned value, middle) ∧
        Path (f value middle) back (ending, after)) ∨
      (∃ error, ending = .failed error ∧ Path (p now) exchanges (.failed error, after)) ∨
      ∃ message, ending = .aborted message ∧ Path (p now) exchanges (.aborted message, after) := by
  obtain ⟨front, ⟨middle, view⟩, back, rfl, hfront, hback⟩ := path_bind_iff.mp hpath
  cases middle with
  | returned value => exact .inl ⟨front, back, value, view, rfl, hfront, hback⟩
  | failed error =>
    cases hback
    exact .inr (.inl ⟨error, rfl, by simpa using hfront⟩)
  | aborted message =>
    cases hback
    exact .inr (.inr ⟨message, rfl, by simpa using hfront⟩)

end Procedure

/-! ## Settled endings -/

namespace Ending

/-- What the caller of a settled procedure is told. -/
def result : Ending α → Except Error α
  | .returned value => .ok value
  | .failed error => .error error
  | .aborted message => .error (abortion message)

/-- The view after an ending is settled. -/
def settled : Ending α → View → View
  | .returned _, view => view
  | .failed error, view => view.reporting error
  | .aborted message, view => view.reporting (abortion message)

/-- Settling an ending changes no more than the notice. -/
lemma exists_settled (ending : Ending α) (view : View) :
    ∃ notice, ending.settled view = { view with notice } := by
  cases ending with
  | returned value => exact ⟨view.notice, rfl⟩
  | failed error => exact ⟨some error.notice, rfl⟩
  | aborted message => exact ⟨some (abortion message).notice, rfl⟩

/-- The ending of a procedure that goes on to a value where an attempt in it has not broken
down. -/
def attempted (value : β) : Ending α → Ending β
  | .returned _ | .failed _ => .returned value
  | .aborted message => .aborted message

/-- What an attempt is told of an error is what its procedure was told. -/
lemma result_of_attempted_error {γ : Type} {value : β} {ending : Ending α} {error : Error}
    (hresult : (ending.attempted value).result = .error error) (f : α → γ) :
    ending.result.map f = .error error := by
  cases ending with
  | returned => cases hresult
  | failed => cases hresult
  | aborted => cases hresult; rfl

/-- The view after an attempt. -/
def noticed : Ending α → View → View
  | .failed error, view => view.reporting error
  | .returned _, view | .aborted _, view => view

/-- An attempt at the end of an operation is reported on the view as the operation itself is. -/
lemma settled_noticed (value : β) (ending : Ending α) (view : View) :
    (ending.attempted value).settled (ending.noticed view) = ending.settled view := by
  cases ending <;> rfl

lemma map_result_attempted {γ : Type} (f : β → γ) (value : β) (ending : Ending α) :
    (ending.attempted value).result.map f = (ending.attempted (f value)).result := by
  cases ending <;> rfl

end Ending

lemma path_settle_iff {p : Procedure α} {now next : View} {exchanges : List Exchange}
    {result : Except Error α} :
    Path (p.settle now) exchanges (result, next) ↔
      ∃ ending after, Path (p now) exchanges (ending, after) ∧
        result = ending.result ∧ next = ending.settled after := by
  constructor
  · intro hpath
    obtain ⟨front, ⟨ending, after⟩, back, rfl, hfront, hback⟩ := path_bind_iff.mp hpath
    refine ⟨ending, after, ?_⟩
    cases ending <;> cases hback <;>
      simpa [Ending.result, Ending.settled, View.reporting] using hfront
  · rintro ⟨ending, after, hbody, rfl, rfl⟩
    refine path_bind_iff.mpr ⟨exchanges, _, [], (List.append_nil _).symm, hbody, ?_⟩
    cases ending <;> exact .done _

lemma path_settle_map_iff {p : Procedure α} {f : α → β} {now next : View}
    {exchanges : List Exchange} {result : Except Error β} :
    Path (Operation.map f p.settle now) exchanges (result, next) ↔
      ∃ ending after, Path (p now) exchanges (ending, after) ∧
        result = ending.result.map f ∧ next = ending.settled after := by
  constructor
  · intro hpath
    obtain ⟨front, ⟨original, left⟩, back, rfl, hfront, hback⟩ := path_bind_iff.mp hpath
    cases hback
    obtain ⟨ending, after, hbody, rfl, rfl⟩ := path_settle_iff.mp hfront
    exact ⟨ending, after, by simpa using hbody, rfl, rfl⟩
  · rintro ⟨ending, after, hbody, rfl, rfl⟩
    have hsettled := path_settle_iff.mpr ⟨ending, after, hbody, rfl, rfl⟩
    exact path_bind_iff.mpr ⟨exchanges, _, [], (List.append_nil _).symm, hsettled, .done _⟩

/-- An operation that begins with a rule stops there if the rule refuses, and nothing is sent; else
it goes on with what the rule allows. -/
lemma path_rule_iff {γ : Type} {rule : View → Except DomainError γ} {rest : View → γ → Procedure α}
    {f : α → β} {now next : View} {exchanges : List Exchange} {result : Except Error β} :
    Path (Operation.map f (Procedure.settle (Procedure.view >>= fun now =>
        Procedure.check (rule now) >>= rest now)) now) exchanges (result, next) ↔
      (∃ error, rule now = .error error ∧ exchanges = [] ∧ result = .error (.domain error) ∧
          next = now.reporting (.domain error)) ∨
        ∃ value ending after, rule now = .ok value ∧
          Path (rest now value now) exchanges (ending, after) ∧
          result = ending.result.map f ∧ next = ending.settled after := by
  rw [path_settle_map_iff, Procedure.view_bind]
  cases hrule : rule now with
  | error error =>
    rw [Procedure.check_error_bind]
    constructor
    · rintro ⟨ending, after, hbody, rfl, rfl⟩
      cases hbody
      exact .inl ⟨error, rfl, rfl, rfl, rfl⟩
    · rintro (⟨_, ⟨⟩, rfl, rfl, rfl⟩ | ⟨_, _, _, ⟨⟩, -⟩)
      exact ⟨_, _, .done _, rfl, rfl⟩
  | ok value =>
    rw [Procedure.check_ok_bind]
    constructor
    · rintro ⟨ending, after, hbody, rfl, rfl⟩
      exact .inr ⟨value, ending, after, rfl, hbody, rfl, rfl⟩
    · rintro (⟨_, ⟨⟩, -⟩ | ⟨_, ending, after, ⟨⟩, hbody, rfl, rfl⟩)
      exact ⟨ending, after, hbody, rfl, rfl⟩

lemma path_attempt_iff {p : Procedure α} {value : β} {now after : View}
    {exchanges : List Exchange} {ending : Ending β} :
    Path ((p.attempt >>= fun _ => pure value) now) exchanges (ending, after) ↔
      ∃ inner left, Path (p now) exchanges (inner, left) ∧
        ending = inner.attempted value ∧ after = inner.noticed left := by
  constructor
  · intro hpath
    obtain ⟨front, middle, back, rfl, hfront, hback⟩ := path_bind_iff.mp hpath
    obtain ⟨first, ⟨inner, left⟩, second, rfl, hinner, hattempt⟩ := path_bind_iff.mp hfront
    refine ⟨inner, left, ?_⟩
    cases inner <;> cases hattempt <;> cases hback <;>
      simpa [Ending.attempted, Ending.noticed, View.reporting] using hinner
  · rintro ⟨inner, left, hinner, rfl, rfl⟩
    have happend := (List.append_nil exchanges).symm
    cases inner <;>
      exact path_bind_iff.mpr ⟨exchanges, _, [], happend,
        path_bind_iff.mpr ⟨exchanges, _, [], happend, hinner, .done _⟩, .done _⟩

end AnnotationReview.Review
