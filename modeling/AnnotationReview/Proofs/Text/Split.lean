import AnnotationReview.Text.Split
import Mathlib.Data.List.Basic
import Mathlib.Tactic.Lemma

/-!
# Where a text is divided

A text is divided at each separator or at the first one, and the pieces are its stretches between
the separators.
-/

namespace AnnotationReview.Text

variable {separator c : Char} {cs piece : List Char}

/-! ## At each separator -/

/-- The pieces are those into which the library divides a list. -/
lemma splitOn_eq (separator : Char) (cs : List Char) :
    splitOn separator cs = cs.splitOn separator := by
  induction cs with
  | nil => rfl
  | cons c cs ih =>
    obtain ⟨piece, pieces, hpieces⟩ :=
      List.exists_cons_of_ne_nil (List.splitOn_ne_nil separator cs)
    rw [splitOn, List.splitOn_cons_eq_if_modifyHead, ih, hpieces]
    simp only [beq_iff_eq]
    rfl

/-- Without a separator the whole is the only piece. -/
lemma splitOn_of_not_mem (hnone : separator ∉ cs) : splitOn separator cs = [cs] := by
  rw [splitOn_eq, List.splitOn_eq_singleton hnone]

/-- A piece is made of characters of the whole, and none of them is the separator. -/
lemma mem_of_mem_splitOn (hpiece : piece ∈ splitOn separator cs) (hc : c ∈ piece) :
    c ∈ cs ∧ c ≠ separator := by
  induction cs generalizing piece with
  | nil =>
    obtain rfl := List.mem_singleton.mp hpiece
    cases hc
  | cons first cs ih =>
    have hlater : ∀ {later : List Char}, later ∈ splitOn separator cs → c ∈ later →
        c ∈ first :: cs ∧ c ≠ separator := by
      intro later hmem hlater
      obtain ⟨hcs, hne⟩ := ih hmem hlater
      exact ⟨List.mem_cons_of_mem _ hcs, hne⟩
    rw [splitOn] at hpiece
    split at hpiece
    next =>
      rcases List.mem_cons.mp hpiece with rfl | hpiece
      · cases hc
      · exact hlater hpiece hc
    next hne =>
      have hfirst : c = first → c ∈ first :: cs ∧ c ≠ separator := by
        rintro rfl
        exact ⟨List.mem_cons_self, hne⟩
      split at hpiece
      next =>
        obtain rfl := List.mem_singleton.mp hpiece
        exact hfirst (List.mem_singleton.mp hc)
      next front more hsplit =>
        rcases List.mem_cons.mp hpiece with rfl | hpiece
        · rcases List.mem_cons.mp hc with hc | hc
          · exact hfirst hc
          · exact hlater (by rw [hsplit]; exact List.mem_cons_self) hc
        · exact hlater (by rw [hsplit]; exact List.mem_cons_of_mem _ hpiece) hc

/-- A separator ends a piece. -/
lemma splitOn_append (cs more : List Char) :
    splitOn separator (cs ++ separator :: more) =
      splitOn separator cs ++ splitOn separator more := by
  simp only [splitOn_eq]
  exact List.splitOn_append_cons_of_beq cs more (beq_self_eq_true separator)

/-! ## At the first separator -/

lemma splitFirst?_eq_none : splitFirst? separator cs = none ↔ separator ∉ cs := by
  induction cs with
  | nil => simp [splitFirst?]
  | cons c cs ih =>
    rw [splitFirst?]
    split
    next hc => simp [hc]
    next hc => simp [ih, Ne.symm hc]

/-- What is divided at its first separator is what stands before and behind it. -/
lemma splitFirst?_eq_some {front back : List Char}
    (hsplit : splitFirst? separator cs = some (front, back)) :
    cs = front ++ separator :: back := by
  induction cs generalizing front with
  | nil => cases hsplit
  | cons first cs ih =>
    rw [splitFirst?] at hsplit
    split at hsplit
    next hfirst =>
      cases hsplit
      rw [hfirst, List.nil_append]
    next =>
      obtain ⟨⟨before, behind⟩, hrest, hpair⟩ := Option.map_eq_some_iff.mp hsplit
      cases hpair
      rw [ih hrest, List.cons_append]

lemma splitFirst?_append {front : List Char} (hnone : separator ∉ front) (back : List Char) :
    splitFirst? separator (front ++ separator :: back) = some (front, back) := by
  induction front with
  | nil => rw [List.nil_append, splitFirst?, if_pos rfl]
  | cons first front ih =>
    obtain ⟨hfirst, hrest⟩ := List.ne_and_not_mem_of_not_mem_cons hnone
    rw [List.cons_append, splitFirst?, if_neg (Ne.symm hfirst), ih hrest]
    rfl

end AnnotationReview.Text
