import AnnotationReview.Text.Blank
import Mathlib.Data.List.Basic
import Mathlib.Data.List.TakeWhile
import Mathlib.Tactic.Lemma

/-!
# Stripping a text

What is left of a text without the characters of a class at its ends stands between two stretches
of the class and neither begins nor ends with it (`StripsTo`).  There is only one such part, and
stripping finds it (`stripsTo_iff`).
-/

namespace AnnotationReview.Text

/-- The second text is the first without the characters of a class at its ends. -/
structure StripsTo (p : Char → Bool) (cs core : List Char) : Prop where
  parts : ∃ front back, cs = front ++ core ++ back ∧ (∀ c ∈ front, p c = true) ∧
    ∀ c ∈ back, p c = true
  first : ∀ c ∈ core.head?, p c = false
  last : ∀ c ∈ core.getLast?, p c = false

variable {c : Char} {cs core : List Char} {p : Char → Bool}

/-- A text divides into a stretch of the class and a rest that does not begin with it. -/
lemma exists_dropWhile (p : Char → Bool) (cs : List Char) :
    ∃ front, cs = front ++ cs.dropWhile p ∧ (∀ c ∈ front, p c = true) ∧
      ∀ c ∈ (cs.dropWhile p).head?, p c = false := by
  refine ⟨cs.takeWhile p, List.takeWhile_append_dropWhile.symm,
    fun c hc => List.mem_takeWhile_imp hc, ?_⟩
  intro c hc
  have hhead := List.head?_dropWhile_not p cs
  rw [hc] at hhead
  simpa using hhead

lemma stripsTo_stripBoth (p : Char → Bool) (cs : List Char) : StripsTo p cs (stripBoth p cs) := by
  obtain ⟨front, hfront, hblank, hfirst⟩ := exists_dropWhile p cs
  obtain ⟨back, hback, hblank', hlast⟩ := exists_dropWhile p (cs.dropWhile p).reverse
  have hdropped : cs.dropWhile p = stripBoth p cs ++ back.reverse := by
    rw [stripBoth, ← List.reverse_append, ← hback, List.reverse_reverse]
  refine ⟨⟨front, back.reverse, ?_, hblank, fun c hc => hblank' c (List.mem_reverse.mp hc)⟩, ?_, ?_⟩
  · rw [List.append_assoc, ← hdropped]
    exact hfront
  · intro c hc
    apply hfirst
    rw [hdropped, List.head?_append, hc]
    rfl
  · intro c hc
    rw [stripBoth, List.getLast?_reverse] at hc
    exact hlast c hc

lemma dropWhile_eq_self (hfirst : ∀ c ∈ cs.head?, p c = false) : cs.dropWhile p = cs := by
  cases cs with
  | nil => rfl
  | cons first rest => exact List.dropWhile_cons_of_neg (by simp [hfirst first rfl])

lemma StripsTo.eq (hstrips : StripsTo p cs core) : stripBoth p cs = core := by
  obtain ⟨⟨front, back, rfl, hfront, hback⟩, hfirst, hlast⟩ := hstrips
  have hreversed : (core.reverse).dropWhile p = core.reverse :=
    dropWhile_eq_self (by rwa [List.head?_reverse])
  rw [stripBoth, List.append_assoc, List.dropWhile_append_of_pos hfront]
  cases core with
  | nil =>
    have hnone : back.dropWhile p = [] := by simpa [List.dropWhile_eq_nil_iff] using hback
    rw [List.nil_append, hnone]
    rfl
  | cons first rest =>
    have hkept : (first :: rest ++ back).dropWhile p = first :: rest ++ back :=
      dropWhile_eq_self hfirst
    rw [hkept, List.reverse_append,
      List.dropWhile_append_of_pos (fun c hc => hback c (List.mem_reverse.mp hc)), hreversed,
      List.reverse_reverse]

/-- **Stripping** leaves the only part of a text that stands between characters of the class and
has others at its ends. -/
lemma stripsTo_iff : StripsTo p cs core ↔ stripBoth p cs = core :=
  ⟨StripsTo.eq, fun hcore => hcore ▸ stripsTo_stripBoth p cs⟩

/-- Stripping leaves a part of the text. -/
lemma mem_of_mem_stripBoth (hc : c ∈ stripBoth p cs) : c ∈ cs := by
  obtain ⟨⟨front, back, hcs, -, -⟩, -, -⟩ := stripsTo_stripBoth p cs
  rw [hcs]
  simp [hc]

/-- A stripped text does not end in a character of the class. -/
lemma not_of_getLast?_stripBoth (hlast : (stripBoth p cs).getLast? = some c) : p c = false :=
  (stripsTo_stripBoth p cs).last c hlast

/-- A text with other characters at both ends is left as it is. -/
lemma stripBoth_eq_self (hfirst : ∀ c ∈ cs.head?, p c = false)
    (hlast : ∀ c ∈ cs.getLast?, p c = false) : stripBoth p cs = cs :=
  StripsTo.eq ⟨⟨[], [], by simp, by simp, by simp⟩, hfirst, hlast⟩

end AnnotationReview.Text
