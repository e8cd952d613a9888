import Mathlib.Data.List.Nodup
import Mathlib.Tactic.Lemma

/-!
# Looking up a key

The value of a key in a list of pairs is the value of the first pair that has the key.
-/

namespace AnnotationReview

variable {α β : Type} [BEq α] [LawfulBEq α] {pairs : List (α × β)}

/-- Where no key stands twice, a value is found where it stands. -/
lemma lookup_eq_some_iff_mem (hkeys : (pairs.map Prod.fst).Nodup) {key : α} {value : β} :
    pairs.lookup key = some value ↔ (key, value) ∈ pairs := by
  rw [List.lookup_eq_some_iff]
  constructor
  · rintro ⟨front, back, rfl, -⟩
    simp
  · intro hmem
    obtain ⟨front, back, rfl⟩ := List.append_of_mem hmem
    refine ⟨front, back, rfl, fun pair hpair => ?_⟩
    rw [List.map_append, List.nodup_append] at hkeys
    simpa using (hkeys.2.2 pair.1 (List.mem_map_of_mem hpair) key (by simp)).symm

lemma lookup_filter_ne [DecidableEq α] (pairs : List (α × β))
    (key other : α) : (pairs.filter fun (k, _) => k != key).lookup other =
      if other = key then none else pairs.lookup other := by
  induction pairs with
  | nil => simp
  | cons pair pairs ih =>
    obtain ⟨found, value⟩ := pair
    by_cases hkey : found = key
    · have hdropped : (found != key) = false := by simp [hkey]
      rw [List.filter_cons_of_neg (by simp [hdropped]), ih, List.lookup_cons]
      by_cases hother : other = key
      · rw [if_pos hother, if_pos hother]
      · have hbeq : (other == found) = false := by simp [hkey, hother]
        rw [hbeq]
    · have hkept : (found != key) = true := by simp [hkey]
      rw [List.filter_cons_of_pos (by simp [hkept]), List.lookup_cons, List.lookup_cons, ih]
      cases hbeq : other == found with
      | false => rfl
      | true =>
        have hother : other ≠ key := by rwa [eq_of_beq hbeq]
        exact (if_neg hother).symm

/-- Where no key stands twice, pairs are found in any order. -/
lemma lookup_reverse (hkeys : (pairs.map Prod.fst).Nodup) (key : α) :
    pairs.reverse.lookup key = pairs.lookup key := by
  have hreverse : (pairs.reverse.map Prod.fst).Nodup := by
    rw [List.map_reverse]
    exact List.nodup_reverse.mpr hkeys
  refine Option.ext fun value => ?_
  rw [lookup_eq_some_iff_mem hreverse, lookup_eq_some_iff_mem hkeys, List.mem_reverse]

end AnnotationReview
