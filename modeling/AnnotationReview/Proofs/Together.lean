import AnnotationReview.Backend.Dialogue
import Mathlib.Tactic.Lemma

/-!
# Calls that are put together

Calls that are put together are all told, in their order, whatever becomes of them
(`Together.map_call`), and how each of them has ended determines what they come to
(`Together.unique`).  So the exchanges of a dialogue determine its value (`path_value_unique`).
For two calls the ways they can go are spelled out: both end, or one of them takes the other down
(`together_pair_iff`).
-/

namespace AnnotationReview.Backend.Dialogue

variable {call first second : Call} {calls : List Call} {exchanges : List Exchange}

namespace Together

variable {ended other : Except String (Answers calls)}

lemma map_call (htogether : Together calls exchanges ended) :
    exchanges.map Exchange.call = calls := by
  induction htogether with
  | none => rfl
  | answered answer rest ih => rw [List.map_cons, ih]
  | failed error rest ih => rw [List.map_cons, ih]
  | takenDown message rest hsame ih => rw [List.map_cons, ih]

lemma unique (htogether : Together calls exchanges ended) (hother : Together calls exchanges other) :
    ended = other := by
  induction htogether with
  | none => cases hother; rfl
  | answered answer rest ih =>
    cases hother with
    | answered _ hrest => rw [ih hrest]
  | failed error rest ih =>
    cases hother with
    | failed _ hrest => rw [ih hrest]
  | takenDown message rest hsame ih =>
    cases hother with
    | takenDown _ hrest hother => rfl

end Together

/-- The first of some calls ends and the others go on, or it is taken down. -/
lemma together_cons_iff {ended : Except String (Answers (call :: calls))} :
    Together (call :: calls) exchanges ended ↔
      ∃ (rest : List Exchange) (later : Except String (Answers calls)), Together calls rest later ∧
        ((∃ result : Except Error call.Answer, exchanges = ⟨call, .ofExcept result⟩ :: rest ∧
            ended = later.map fun answers => (result, answers)) ∨
          ∃ message, exchanges = ⟨call, .panicked message⟩ :: rest ∧ ended = .error message ∧
            ∀ other, later = .error other → other = message) := by
  constructor
  · intro htogether
    cases htogether with
    | answered answer rest => exact ⟨_, _, rest, .inl ⟨.ok answer, rfl, rfl⟩⟩
    | failed error rest => exact ⟨_, _, rest, .inl ⟨.error error, rfl, rfl⟩⟩
    | takenDown message rest hsame => exact ⟨_, _, rest, .inr ⟨message, rfl, rfl, hsame⟩⟩
  · rintro ⟨rest, later, hrest, ⟨answer | error, rfl, rfl⟩ | ⟨message, rfl, rfl, hsame⟩⟩
    · exact .failed _ hrest
    · exact .answered _ hrest
    · exact .takenDown message hrest hsame

/-- A call that is put alone ends or breaks down. -/
lemma together_singleton_iff {ended : Except String (Answers [call])} :
    Together [call] exchanges ended ↔
      (∃ result : Except Error call.Answer,
        exchanges = [⟨call, .ofExcept result⟩] ∧ ended = .ok (result, ())) ∨
      ∃ message, exchanges = [⟨call, .panicked message⟩] ∧ ended = .error message := by
  rw [together_cons_iff]
  constructor
  · rintro ⟨rest, later, ⟨⟩, ⟨result, rfl, rfl⟩ | ⟨message, rfl, rfl, -⟩⟩
    · exact .inl ⟨result, rfl, rfl⟩
    · exact .inr ⟨message, rfl, rfl⟩
  · rintro (⟨result, rfl, rfl⟩ | ⟨message, rfl, rfl⟩)
    · exact ⟨[], .ok (), .none, .inl ⟨result, rfl, rfl⟩⟩
    · exact ⟨[], .ok (), .none, .inr ⟨message, rfl, rfl, by rintro _ ⟨⟩⟩⟩

/-- Two calls that are put together both end, or the second is taken down alone, or the first is,
and then the second has ended or is taken down with it. -/
lemma together_pair_iff {ended : Except String (Answers [first, second])} :
    Together [first, second] exchanges ended ↔
      (∃ (one : Except Error first.Answer) (other : Except Error second.Answer),
        exchanges = [⟨first, .ofExcept one⟩, ⟨second, .ofExcept other⟩] ∧
          ended = .ok (one, other, ())) ∨
      (∃ (one : Except Error first.Answer) (message : String),
        exchanges = [⟨first, .ofExcept one⟩, ⟨second, .panicked message⟩] ∧
          ended = .error message) ∨
      ∃ (message : String) (outcome : Outcome second.Answer),
        exchanges = [⟨first, .panicked message⟩, ⟨second, outcome⟩] ∧ ended = .error message ∧
          ∀ other, outcome = .panicked other → other = message := by
  rw [together_cons_iff]
  simp only [together_singleton_iff]
  constructor
  · rintro ⟨rest, later, ⟨other, rfl, rfl⟩ | ⟨taken, rfl, rfl⟩, ⟨one, rfl, rfl⟩ |
      ⟨message, rfl, rfl, hsame⟩⟩
    · exact .inl ⟨one, other, rfl, rfl⟩
    · refine .inr (.inr ⟨message, .ofExcept other, rfl, rfl, ?_⟩)
      cases other <;> rintro _ ⟨⟩
    · exact .inr (.inl ⟨one, taken, rfl, rfl⟩)
    · obtain rfl := hsame taken rfl
      exact .inr (.inr ⟨taken, .panicked taken, rfl, rfl, by rintro _ ⟨⟩; rfl⟩)
  · rintro (⟨one, other, rfl, rfl⟩ | ⟨one, message, rfl, rfl⟩ | ⟨message, outcome, rfl, rfl, hsame⟩)
    · exact ⟨_, _, .inl ⟨other, rfl, rfl⟩, .inl ⟨one, rfl, rfl⟩⟩
    · exact ⟨_, _, .inr ⟨message, rfl, rfl⟩, .inl ⟨one, rfl, rfl⟩⟩
    · cases outcome with
      | answered answer =>
        exact ⟨_, _, .inl ⟨.ok answer, rfl, rfl⟩, .inr ⟨message, rfl, rfl, by rintro _ ⟨⟩⟩⟩
      | failed error =>
        exact ⟨_, _, .inl ⟨.error error, rfl, rfl⟩, .inr ⟨message, rfl, rfl, by rintro _ ⟨⟩⟩⟩
      | panicked other =>
        obtain rfl := hsame other rfl
        exact ⟨_, _, .inr ⟨other, rfl, rfl⟩, .inr ⟨other, rfl, rfl, by rintro _ ⟨⟩; rfl⟩⟩

/-- A dialogue may be over once calls that are put together have come to their end. -/
lemma path_askAll_of_done {α : Type} {next : Except String (Answers calls) → Dialogue α} {value : α}
    {ended : Except String (Answers calls)} (htogether : Together calls exchanges ended)
    (hdone : next ended = .done value) : Path (.askAll calls next) exchanges value := by
  rw [← List.append_nil exchanges]
  refine .askAll htogether ?_
  rw [hdone]
  exact .done value

/-- Exchanges lead to one value. -/
lemma path_value_unique {α : Type} {dialogue : Dialogue α} {value other : α}
    (hpath : Path dialogue exchanges value) (hother : Path dialogue exchanges other) :
    value = other := by
  induction hpath with
  | done value =>
    cases hother
    rfl
  | ask outcome _ ih =>
    cases hother with
    | ask _ hrest => exact ih hrest
  | @askAll calls next front exchanges value ended htogether _ ih =>
    generalize hall : front ++ exchanges = all at hother
    cases hother with
    | @askAll _ _ ahead later _ _ hahead hrest =>
      have hlength : front.length = ahead.length := by
        rw [← List.length_map Exchange.call, htogether.map_call, ← hahead.map_call,
          List.length_map]
      obtain ⟨rfl, rfl⟩ := List.append_inj hall hlength
      obtain rfl := htogether.unique hahead
      exact ih hrest

end AnnotationReview.Backend.Dialogue
