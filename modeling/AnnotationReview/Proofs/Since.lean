import Mathlib.Tactic.Tauto

/-!
# What has held since an event

A control that is switched by events is described by its latest switch: it is on where an event has
turned it on and none has turned it off since (`Since`).  `since_cons_switch` takes the law of such
a control from one step to a sequence of steps.
-/

namespace AnnotationReview

/-- An event has started it, and none has ended it since. -/
def Since {α : Type} (starts ends : α → Prop) (events : List α) : Prop :=
  ∃ past event future, events = past ++ event :: future ∧ starts event ∧
    ∀ later ∈ future, ¬ends later

section

variable {α : Type} {starts ends : α → Prop}

@[simp] lemma since_nil : ¬Since starts ends [] := by
  rintro ⟨past, event, future, hevents, -⟩
  simp at hevents

lemma since_cons_iff {event : α} {events : List α} :
    Since starts ends (event :: events) ↔
      (starts event ∧ ∀ later ∈ events, ¬ends later) ∨ Since starts ends events := by
  constructor
  · rintro ⟨past, starting, future, hevents, hstarts, hfuture⟩
    cases past with
    | nil =>
      cases hevents
      exact .inl ⟨hstarts, hfuture⟩
    | cons first past =>
      cases hevents
      exact .inr ⟨past, starting, future, rfl, hstarts, hfuture⟩
  · rintro (⟨hstarts, hfuture⟩ | ⟨past, starting, future, rfl, hstarts, hfuture⟩)
    · exact ⟨[], event, events, rfl, hstarts, hfuture⟩
    · exact ⟨event :: past, starting, future, rfl, hstarts, hfuture⟩

/-- The latest event decides, unless it has nothing to do with it. -/
lemma since_concat_iff {event : α} {events : List α} :
    Since starts ends (events ++ [event]) ↔
      starts event ∨ Since starts ends events ∧ ¬ends event := by
  induction events with
  | nil => simp [since_cons_iff]
  | cons first events ih =>
    rw [List.cons_append, since_cons_iff, since_cons_iff, ih]
    simp only [List.forall_mem_append, List.forall_mem_singleton]
    tauto

/-- What has started is still so if nothing that could end it has. -/
lemma Since.mono {others : α → Prop} {events : List α} (hsince : Since starts ends events)
    (hothers : ∀ event, others event → ends event) : Since starts others events := by
  obtain ⟨past, event, future, hevents, hstarts, hfuture⟩ := hsince
  exact ⟨past, event, future, hevents, hstarts, fun later hmem hends =>
    hfuture later hmem (hothers later hends)⟩

/-- What was started and not ended since was started for the last time somewhere. -/
lemma Since.exists_latest {events : List α} (hsince : Since starts ends events) :
    ∃ past event future, events = past ++ event :: future ∧ starts event ∧
      ∀ later ∈ future, ¬ends later ∧ ¬starts later := by
  induction events with
  | nil => exact absurd hsince since_nil
  | cons first events ih =>
    by_cases hlater : Since starts ends events
    · obtain ⟨past, event, future, rfl, hstarts, hfuture⟩ := ih hlater
      exact ⟨first :: past, event, future, rfl, hstarts, hfuture⟩
    · obtain ⟨hstarts, hends⟩ := (since_cons_iff.mp hsince).resolve_right hlater
      refine ⟨[], first, events, rfl, hstarts, fun later hmem => ⟨hends later hmem, ?_⟩⟩
      intro hrestarts
      obtain ⟨past, future, rfl⟩ := List.append_of_mem hmem
      exact hlater ⟨past, later, future, rfl, hrestarts, fun other hother =>
        hends other (List.mem_append_right _ (List.mem_cons_of_mem _ hother))⟩

/-- A switch at the end of a sequence: it was turned on and not off since, or it was on to begin
with and was never turned off. -/
lemma since_cons_switch {event : α} {events : List α} {before after : Prop}
    (hswitch : after ↔ starts event ∨ before ∧ ¬ends event) :
    (Since starts ends events ∨ after ∧ ∀ later ∈ events, ¬ends later) ↔
      Since starts ends (event :: events) ∨ before ∧ ∀ later ∈ event :: events, ¬ends later := by
  rw [hswitch, since_cons_iff, List.forall_mem_cons]
  tauto

end

end AnnotationReview
