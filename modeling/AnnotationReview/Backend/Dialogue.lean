import AnnotationReview.Backend.Call
import AnnotationReview.Backend.Error

/-!
# Dialogues with the backend

A `Dialogue` is a computation that puts calls to the backend and goes on according to how they end.
It puts them one after the other, or several together, which are then under way at the same time.
It does not say where the outcomes come from: `Dialogue.run` lets any backend with a state answer,
and `Dialogue.Path` relates a dialogue to every list of calls and outcomes it may go through.  Both
follow the order of a dialogue (`run_bind`, `path_bind_iff`), and whatever a backend does is one of
the paths (`exists_path_run`).

Calls that are put together have to end, all of them, before the dialogue goes on.  If one breaks
down, nothing more is heard of the others: those that have ended are not gone on with, those under
way are dropped, and those that are not put yet never are (`Dialogue.Together`).
-/

namespace AnnotationReview.Backend

/-- How a call ends. -/
inductive Outcome (α : Type) where
  | answered (answer : α)
  | failed (error : Error)
  /-- The whole operation was taken down before the call had ended: the call broke down, or another
  one did that was put together with it. -/
  | panicked (message : String)
deriving DecidableEq, Repr

/-- How a call ended that was not taken down. -/
def Outcome.ofExcept {α : Type} : Except Error α → Outcome α
  | .ok answer => .answered answer
  | .error error => .failed error

/-- What several calls have come to, each in its place, when all of them have ended. -/
def Answers : List Call → Type
  | [] => Unit
  | call :: more => Except Error call.Answer × Answers more

/-- A computation that may put calls to the backend. -/
inductive Dialogue (α : Type) where
  | done (value : α)
  | ask (call : Call) (next : Outcome call.Answer → Dialogue α)
  /-- Puts several calls together, in their order.  It goes on when all of them have ended, or with
  the message of one that has broken down. -/
  | askAll (calls : List Call) (next : Except String (Answers calls) → Dialogue α)

namespace Dialogue

variable {α β γ σ : Type}

/-- Goes on with the value of a dialogue. -/
def bind : Dialogue α → (α → Dialogue β) → Dialogue β
  | .done value, f => f value
  | .ask call next, f => .ask call fun outcome => (next outcome).bind f
  | .askAll calls next, f => .askAll calls fun ended => (next ended).bind f

instance : Monad Dialogue where
  pure := .done
  bind := Dialogue.bind

/-- Puts one call. -/
def put (call : Call) : Dialogue (Outcome call.Answer) :=
  .ask call .done

/-- Puts several calls together. -/
def putAll (calls : List Call) : Dialogue (Except String (Answers calls)) :=
  .askAll calls .done

/-- A backend with a state, which answers calls one at a time. -/
abbrev Responder (σ : Type) := (call : Call) → σ → Outcome call.Answer × σ

/-- A backend answers calls that are put together in their order, until one breaks down. -/
def Responder.answerAll (responder : Responder σ) :
    (calls : List Call) → σ → Except String (Answers calls) × σ
  | [], state => (.ok (), state)
  | call :: more, state =>
    match responder call state with
    | (.answered answer, state) =>
      let (ended, state) := answerAll responder more state
      (ended.map fun answers => (.ok answer, answers), state)
    | (.failed error, state) =>
      let (ended, state) := answerAll responder more state
      (ended.map fun answers => (.error error, answers), state)
    | (.panicked message, state) => (.error message, state)

/-- Runs a dialogue against a backend. -/
def run (responder : Responder σ) : Dialogue α → σ → α × σ
  | .done value, state => (value, state)
  | .ask call next, state =>
    let (outcome, state) := responder call state
    (next outcome).run responder state
  | .askAll calls next, state =>
    let (ended, state) := responder.answerAll calls state
    (next ended).run responder state

/-- A call together with how it ended. -/
structure Exchange where
  call : Call
  outcome : Outcome call.Answer

/-- Calls that are put together may go through the exchanges, which stand in the order of the calls,
and come to the end.  A call that is taken down takes all of them with it, and the message is that
of the one call that has broken down; which of those that are taken down this was is not told. -/
inductive Together :
    (calls : List Call) → List Exchange → Except String (Answers calls) → Prop where
  | none : Together [] [] (.ok ())
  | answered {call : Call} {more : List Call} {exchanges : List Exchange}
      {later : Except String (Answers more)} (answer : call.Answer)
      (rest : Together more exchanges later) :
      Together (call :: more) (⟨call, .answered answer⟩ :: exchanges)
        (later.map fun answers => (.ok answer, answers))
  | failed {call : Call} {more : List Call} {exchanges : List Exchange}
      {later : Except String (Answers more)} (error : Error)
      (rest : Together more exchanges later) :
      Together (call :: more) (⟨call, .failed error⟩ :: exchanges)
        (later.map fun answers => (.error error, answers))
  | takenDown {call : Call} {more : List Call} {exchanges : List Exchange}
      {later : Except String (Answers more)} (message : String)
      (rest : Together more exchanges later)
      (hsame : ∀ other, later = .error other → other = message) :
      Together (call :: more) (⟨call, .panicked message⟩ :: exchanges) (.error message)

/-- The dialogue may go through the exchanges in this order and come to the value. -/
inductive Path : Dialogue α → List Exchange → α → Prop where
  | done (value : α) : Path (.done value) [] value
  | ask {call : Call} {next : Outcome call.Answer → Dialogue α} {exchanges : List Exchange}
      {value : α} (outcome : Outcome call.Answer) (rest : Path (next outcome) exchanges value) :
      Path (.ask call next) (⟨call, outcome⟩ :: exchanges) value
  | askAll {calls : List Call} {next : Except String (Answers calls) → Dialogue α}
      {front exchanges : List Exchange} {value : α} {ended : Except String (Answers calls)}
      (together : Together calls front ended) (rest : Path (next ended) exchanges value) :
      Path (.askAll calls next) (front ++ exchanges) value

/-! ## Order -/

@[simp] theorem pure_eq (value : α) : (pure value : Dialogue α) = .done value := rfl

@[simp] theorem bind_eq (p : Dialogue α) (f : α → Dialogue β) : p >>= f = p.bind f := rfl

theorem bind_done (p : Dialogue α) : p.bind .done = p := by
  induction p with
  | done value => rfl
  | ask call next ih => exact congrArg (ask call) (funext ih)
  | askAll calls next ih => exact congrArg (askAll calls) (funext ih)

theorem bind_assoc (p : Dialogue α) (f : α → Dialogue β) (g : β → Dialogue γ) :
    (p.bind f).bind g = p.bind fun value => (f value).bind g := by
  induction p with
  | done value => rfl
  | ask call next ih => exact congrArg (ask call) (funext ih)
  | askAll calls next ih => exact congrArg (askAll calls) (funext ih)

instance : LawfulMonad Dialogue :=
  LawfulMonad.mk' Dialogue bind_done (fun _ _ => rfl) bind_assoc

/-- A backend answers the first part of a dialogue and then, in the state it is in, the rest. -/
theorem run_bind (responder : Responder σ) (p : Dialogue α) (f : α → Dialogue β) (state : σ) :
    (p.bind f).run responder state =
      (f (p.run responder state).1).run responder (p.run responder state).2 := by
  induction p generalizing state with
  | done value => rfl
  | ask call next ih => exact ih _ _
  | askAll calls next ih => exact ih _ _

/-- The exchanges of two parts in a row are those of the first and then those of the second. -/
theorem path_bind_iff {p : Dialogue α} {f : α → Dialogue β} {exchanges : List Exchange}
    {value : β} :
    Path (p.bind f) exchanges value ↔
      ∃ front middle back, exchanges = front ++ back ∧ Path p front middle ∧
        Path (f middle) back value := by
  constructor
  · intro path
    induction p generalizing exchanges with
    | done middle => exact ⟨[], middle, exchanges, rfl, .done middle, path⟩
    | ask call next ih =>
      cases path with
      | ask outcome rest =>
        obtain ⟨front, middle, back, rfl, first, second⟩ := ih outcome rest
        exact ⟨_ :: front, middle, back, rfl, .ask outcome first, second⟩
    | askAll calls next ih =>
      cases path with
      | @askAll _ _ ahead _ _ ended together rest =>
        obtain ⟨front, middle, back, rfl, first, second⟩ := ih ended rest
        exact ⟨ahead ++ front, middle, back, (List.append_assoc ..).symm, .askAll together first,
          second⟩
  · rintro ⟨front, middle, back, rfl, first, second⟩
    induction first with
    | done => exact second
    | ask outcome _ ih => exact .ask outcome (ih second)
    | askAll together _ ih =>
      rw [List.append_assoc]
      exact .askAll together (ih second)

/-- Calls may all be taken down by one of them. -/
theorem exists_together_takenDown (calls : List Call) (message : String) :
    ∃ exchanges ended, Together calls exchanges ended ∧
      ∀ other, ended = .error other → other = message := by
  induction calls with
  | nil => exact ⟨[], .ok (), .none, by rintro _ ⟨⟩⟩
  | cons call more ih =>
    obtain ⟨exchanges, later, rest, hsame⟩ := ih
    exact ⟨_, .error message, .takenDown message rest hsame, by rintro _ ⟨⟩; rfl⟩

/-- However a backend answers calls that are put together, they may come to that end. -/
theorem exists_together_answerAll (responder : Responder σ) (calls : List Call) (state : σ) :
    ∃ exchanges, Together calls exchanges (responder.answerAll calls state).1 := by
  induction calls generalizing state with
  | nil => exact ⟨[], .none⟩
  | cons call more ih =>
    rw [Responder.answerAll]
    split
    next answer state _ =>
      obtain ⟨exchanges, rest⟩ := ih state
      exact ⟨_, .answered answer rest⟩
    next error state _ =>
      obtain ⟨exchanges, rest⟩ := ih state
      exact ⟨_, .failed error rest⟩
    next message state _ =>
      obtain ⟨exchanges, later, rest, hsame⟩ := exists_together_takenDown more message
      exact ⟨_, .takenDown message rest hsame⟩

/-- However a backend answers, the dialogue goes through some path. -/
theorem exists_path_run (responder : Responder σ) (p : Dialogue α) (state : σ) :
    ∃ exchanges, Path p exchanges (p.run responder state).1 := by
  induction p generalizing state with
  | done value => exact ⟨[], .done value⟩
  | ask call next ih =>
    obtain ⟨exchanges, path⟩ := ih _ _
    exact ⟨_, .ask _ path⟩
  | askAll calls next ih =>
    obtain ⟨front, together⟩ := exists_together_answerAll responder calls state
    obtain ⟨exchanges, path⟩ := ih _ _
    exact ⟨_, .askAll together path⟩

end Dialogue

end AnnotationReview.Backend
