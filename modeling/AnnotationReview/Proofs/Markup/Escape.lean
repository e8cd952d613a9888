import AnnotationReview.Markup.Escape
import Mathlib.Tactic.Lemma
import Mathlib.Tactic.SplitIfs

/-!
# Escaped text

What `escape` writes holds none of the characters at which a text or a quoted value ends, and an
ampersand only where it starts one of the five entities.  Since it works character by character, it
goes through texts in a row part by part, and `unescape` reads back what was escaped whatever comes
behind it (`readsAs_escapeChars`).
-/

namespace AnnotationReview.Markup

/-- The characters at which a text or a quoted value can end. -/
def delimiters : List Char := ['<', '>', '"', '\'']

/-- What stands behind the ampersand in each of the five entities. -/
def entities : List (List Char) :=
  ["amp;".toList, "lt;".toList, "gt;".toList, "quot;".toList, "#39;".toList]

/-- A character becomes an entity, or it stands for itself and is none of the five. -/
lemma escapeChar_cases (c : Char) :
    (∃ entity ∈ entities, escapeChar c = '&' :: entity) ∨
      escapeChar c = [c] ∧ c ≠ '&' ∧ c ∉ delimiters := by
  unfold escapeChar
  split_ifs with hamp hlt hgt hquote hapostrophe
  · exact .inl ⟨"amp;".toList, by simp [entities], rfl⟩
  · exact .inl ⟨"lt;".toList, by simp [entities], rfl⟩
  · exact .inl ⟨"gt;".toList, by simp [entities], rfl⟩
  · exact .inl ⟨"quot;".toList, by simp [entities], rfl⟩
  · exact .inl ⟨"#39;".toList, by simp [entities], rfl⟩
  · exact .inr ⟨rfl, hamp, by simp [delimiters, hlt, hgt, hquote, hapostrophe]⟩

/-- No entity holds a delimiter or another ampersand. -/
lemma not_mem_entity {entity : List Char} (hentity : entity ∈ entities) :
    '&' ∉ entity ∧ ∀ d ∈ delimiters, d ∉ entity := by
  simp only [entities, List.mem_cons, List.not_mem_nil, or_false] at hentity
  rcases hentity with rfl | rfl | rfl | rfl | rfl <;> simp [delimiters]

lemma escapeChars_cons (c : Char) (cs : List Char) :
    escapeChars (c :: cs) = escapeChar c ++ escapeChars cs := rfl

/-- Nothing that was escaped ends a text or a quoted value. -/
lemma not_mem_escapeChars (cs : List Char) {d : Char} (hd : d ∈ delimiters) :
    d ∉ escapeChars cs := by
  intro hmem
  obtain ⟨c, -, hc⟩ := List.mem_flatMap.mp hmem
  rcases escapeChar_cases c with ⟨entity, hentity, hwritten⟩ | ⟨hself, -, hplain⟩
  · rw [hwritten, List.mem_cons] at hc
    rcases hc with rfl | hc
    · revert hd
      decide
    · exact (not_mem_entity hentity).2 d hd hc
  · rw [hself, List.mem_singleton] at hc
    exact hplain (hc ▸ hd)

/-- Every ampersand of an escaped text starts an entity. -/
lemma entity_of_escapeChars {cs front back : List Char}
    (hwritten : escapeChars cs = front ++ '&' :: back) : ∃ entity ∈ entities, entity <+: back := by
  induction cs generalizing front with
  | nil => simp [escapeChars] at hwritten
  | cons c cs ih =>
    rw [escapeChars_cons] at hwritten
    rcases List.append_eq_append_iff.mp hwritten with ⟨more, -, hmore⟩ | ⟨more, hfirst, hmore⟩
    · exact ih hmore
    -- the ampersand may stand in what the first character has become
    · cases more with
      | nil =>
        have hnext : escapeChars cs = [] ++ '&' :: back := hmore.symm
        exact ih hnext
      | cons d more =>
        obtain ⟨rfl, rfl⟩ := List.cons.inj hmore
        rcases escapeChar_cases c with ⟨entity, hentity, hescaped⟩ | ⟨hself, hplain, -⟩
        · rw [hescaped] at hfirst
          cases front with
          | nil =>
            obtain ⟨-, rfl⟩ := List.cons.inj hfirst
            exact ⟨entity, hentity, List.prefix_append _ _⟩
          | cons e front =>
            obtain ⟨-, rfl⟩ := List.cons.inj hfirst
            exact absurd (by simp) (not_mem_entity hentity).1
        · rw [hself] at hfirst
          have hamp : '&' ∈ [c] := hfirst ▸ by simp
          exact absurd (List.mem_singleton.mp hamp).symm hplain

/-! ## Reading back -/

/-- Only an ampersand can start an entity. -/
lemma unescape_cons_of_ne {c : Char} (hplain : c ≠ '&') (cs : List Char) :
    unescape (c :: cs) = c :: unescape cs := by
  rw [unescape] <;> simp [hplain]

lemma unescape_escapeChar_append (c : Char) (rest : List Char) :
    unescape (escapeChar c ++ rest) = c :: unescape rest := by
  unfold escapeChar
  split_ifs with hamp hlt hgt hquote hapostrophe
  · rw [hamp]; rfl
  · rw [hlt]; rfl
  · rw [hgt]; rfl
  · rw [hquote]; rfl
  · rw [hapostrophe]; rfl
  · exact unescape_cons_of_ne hamp rest

/-- The text is read as the content whatever comes behind it. -/
def ReadsAs (written content : List Char) : Prop :=
  ∀ rest, unescape (written ++ rest) = content ++ unescape rest

lemma ReadsAs.nil : ReadsAs [] [] := fun _ => rfl

lemma ReadsAs.append {first second front back : List Char} (hfirst : ReadsAs first front)
    (hsecond : ReadsAs second back) : ReadsAs (first ++ second) (front ++ back) := by
  intro rest
  rw [List.append_assoc, hfirst, hsecond, List.append_assoc]

lemma ReadsAs.unescape_eq {written content : List Char} (hread : ReadsAs written content) :
    unescape written = content := by
  simpa [unescape] using hread []

/-- An escaped text is read as what it was. -/
lemma readsAs_escapeChars (cs : List Char) : ReadsAs (escapeChars cs) cs := by
  intro rest
  induction cs with
  | nil => rfl
  | cons c cs ih =>
    rw [escapeChars_cons, List.append_assoc, unescape_escapeChar_append, ih, List.cons_append]

/-- Nothing is read from nothing alone. -/
lemma unescape_eq_nil_iff {cs : List Char} : unescape cs = [] ↔ cs = [] := by
  constructor
  · intro hread
    fun_cases unescape cs <;> simp_all [unescape]
  · rintro rfl
    rfl

end AnnotationReview.Markup
