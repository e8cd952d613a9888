import AnnotationReview.Proofs.Text.Blank
import AnnotationReview.Text.Numeral

/-!
# What a numeral denotes

A text denotes a number if it is an optional plus sign and at least one ASCII digit (`Denotes`).  A
text that denotes no number up to a limit has a fault, which is the first that is met from the left
(`Fault`): digits are read only as long as their value is within the limit.  A text that is read
gives the number that it denotes (`readNumeral_eq_ok_iff`), and one that is refused is refused for
its fault (`readNumeral_eq_error_iff`).
-/

namespace AnnotationReview.Text

/-- The text denotes a number: it is an optional plus sign and at least one digit. -/
def Denotes (text : String) (n : Nat) : Prop :=
  ∃ digits, (text.toList = digits ∨ text.toList = '+' :: digits) ∧ digits ≠ [] ∧
    (∀ c ∈ digits, c.isDigit = true) ∧ Nat.ofDigitChars 10 digits 0 = n

/-- A text without the plus sign in front. -/
def unsigned : List Char → List Char
  | '+' :: cs => cs
  | cs => cs

/-- Why a text denotes no number up to a limit. -/
inductive Fault (limit : Nat) (text : String) : NumeralError → Prop where
  | empty (htext : text = "") : Fault limit text .empty
  | signAlone (htext : text = "+") : Fault limit text .invalidDigit
  /-- Behind digits with a value within the limit stands something else. -/
  | invalidDigit {digits more : List Char} {c : Char}
      (htext : unsigned text.toList = digits ++ c :: more)
      (hdigits : ∀ d ∈ digits, d.isDigit = true)
      (hvalue : Nat.ofDigitChars 10 digits 0 ≤ limit) (hc : c.isDigit = false) :
      Fault limit text .invalidDigit
  /-- The value of some digits is beyond the limit, whatever stands behind them. -/
  | overflow {digits more : List Char} (htext : unsigned text.toList = digits ++ more)
      (hdigits : ∀ d ∈ digits, d.isDigit = true)
      (hvalue : limit < Nat.ofDigitChars 10 digits 0) : Fault limit text .overflow

variable {limit value n : Nat} {text : String} {c : Char} {digits more : List Char}
  {error : NumeralError}

/-! ## Digit by digit -/

lemma digitValue?_eq (c : Char) :
    digitValue? c = if c.isDigit = true then some (c.toNat - '0'.toNat) else none := by
  refine if_congr ?_ rfl rfl
  rw [Char.isDigit_iff_toNat]
  exact Iff.rfl

/-- More digits do not make a value smaller. -/
lemma le_ofDigitChars (digits : List Char) (value : Nat) :
    value ≤ Nat.ofDigitChars 10 digits value := by
  rw [Nat.ofDigitChars_eq_ofDigitChars_zero]
  have hpower : 1 ≤ 10 ^ digits.length := Nat.one_le_pow _ _ (by decide)
  calc value = 1 * value := (Nat.one_mul value).symm
    _ ≤ 10 ^ digits.length * value := Nat.mul_le_mul_right value hpower
    _ ≤ _ := Nat.le_add_right _ _

lemma readDigits_cons_of_isDigit (hc : c.isDigit = true) :
    readDigits limit value (c :: more) =
      if Nat.ofDigitChars 10 [c] value ≤ limit then
        readDigits limit (Nat.ofDigitChars 10 [c] value) more
      else .error .overflow := by
  rw [readDigits, digitValue?_eq, if_pos hc]
  rfl

/-- Digits are read one after the other as long as their value is within the limit. -/
lemma readDigits_append (hdigits : ∀ d ∈ digits, d.isDigit = true)
    (hvalue : Nat.ofDigitChars 10 digits value ≤ limit) :
    readDigits limit value (digits ++ more) =
      readDigits limit (Nat.ofDigitChars 10 digits value) more := by
  induction digits generalizing value with
  | nil => rfl
  | cons c digits ih =>
    obtain ⟨hc, hdigits⟩ := List.forall_mem_cons.mp hdigits
    have hfirst : Nat.ofDigitChars 10 [c] value ≤ limit := (le_ofDigitChars digits _).trans hvalue
    rw [List.cons_append, readDigits_cons_of_isDigit hc, if_pos hfirst]
    exact ih hdigits hvalue

/-- Digits with a value beyond the limit are not read to their end. -/
lemma readDigits_overflow (hdigits : ∀ d ∈ digits, d.isDigit = true) (hstart : value ≤ limit)
    (hvalue : limit < Nat.ofDigitChars 10 digits value) :
    readDigits limit value (digits ++ more) = .error .overflow := by
  induction digits generalizing value with
  | nil => exact absurd hstart (Nat.not_le.mpr hvalue)
  | cons c digits ih =>
    obtain ⟨hc, hdigits⟩ := List.forall_mem_cons.mp hdigits
    rw [List.cons_append, readDigits_cons_of_isDigit hc]
    split
    next hfirst => exact ih hdigits hfirst hvalue
    next => rfl

/-! ## The whole text -/

lemma readNumeral_eq_readDigits (hempty : text ≠ "") (hsign : text ≠ "+") :
    readNumeral limit text = readDigits limit 0 (unsigned text.toList) := by
  unfold readNumeral
  split
  next hchars => exact absurd (String.toList_inj.mp hchars) hempty
  next hchars => exact absurd (String.toList_inj.mp hchars) hsign
  next digits _ hchars => rw [hchars, unsigned]
  next chars _ _ hplus =>
    unfold unsigned
    split
    next hchars => exact absurd hchars (hplus _)
    next => rfl

lemma readNumeral_of_denotes (hdenotes : Denotes text n) (hn : n ≤ limit) :
    readNumeral limit text = .ok n := by
  obtain ⟨digits, hchars, hne, hdigits, rfl⟩ := hdenotes
  obtain ⟨first, rest, rfl⟩ := List.exists_cons_of_ne_nil hne
  have hfirst := hdigits first List.mem_cons_self
  have hplus : first ≠ '+' := by
    rintro rfl
    cases hfirst
  have hunsigned : unsigned text.toList = first :: rest := by
    rcases hchars with hchars | hchars
    · rw [hchars, unsigned]
      simpa using hplus
    · rw [hchars, unsigned]
  have hread : readDigits limit 0 (first :: rest ++ []) =
      .ok (Nat.ofDigitChars 10 (first :: rest) 0) := readDigits_append hdigits hn
  rw [List.append_nil] at hread
  rw [readNumeral_eq_readDigits ?_ ?_, hunsigned, hread]
  · rintro rfl
    simp at hchars
  · rintro rfl
    simp [hplus.symm] at hchars

lemma readNumeral_of_fault (hfault : Fault limit text error) :
    readNumeral limit text = .error error := by
  cases hfault with
  | empty htext => rw [htext]; rfl
  | signAlone htext => rw [htext]; rfl
  | invalidDigit htext hdigits hvalue hc =>
    by_cases hsign : text = "+"
    · rw [hsign]; rfl
    · rw [readNumeral_eq_readDigits ?_ hsign, htext, readDigits_append hdigits hvalue, readDigits,
        digitValue?_eq, hc]
      · rfl
      · rintro rfl
        simp [unsigned] at htext
  | overflow htext hdigits hvalue =>
    have hchars : unsigned text.toList ≠ [] := by
      rw [htext]
      rintro hnil
      obtain ⟨rfl, -⟩ := List.append_eq_nil_iff.mp hnil
      cases hvalue
    rw [readNumeral_eq_readDigits ?_ ?_, htext, readDigits_overflow hdigits limit.zero_le hvalue]
    · rintro rfl
      exact hchars rfl
    · rintro rfl
      exact hchars rfl

lemma eq_unsigned (cs : List Char) : cs = unsigned cs ∨ cs = '+' :: unsigned cs := by
  unfold unsigned
  split
  next => exact .inr rfl
  next => exact .inl rfl

/-- A text denotes a number up to the limit, or it has a fault. -/
lemma denotes_or_fault (limit : Nat) (text : String) :
    (∃ n, Denotes text n ∧ n ≤ limit) ∨ ∃ error, Fault limit text error := by
  by_cases hempty : text = ""
  · exact .inr ⟨_, .empty hempty⟩
  by_cases hsign : text = "+"
  · exact .inr ⟨_, .signAlone hsign⟩
  obtain ⟨digits, hsplit, hdigits, hstop⟩ := exists_dropWhile Char.isDigit (unsigned text.toList)
  by_cases hvalue : Nat.ofDigitChars 10 digits 0 ≤ limit
  · cases hrest : (unsigned text.toList).dropWhile Char.isDigit with
    | nil =>
      rw [hrest, List.append_nil] at hsplit
      refine .inl ⟨_, ⟨digits, hsplit ▸ eq_unsigned _, ?_, hdigits, rfl⟩, hvalue⟩
      rintro rfl
      rcases eq_unsigned text.toList with hchars | hchars
      · exact hempty (String.toList_inj.mp (hchars.trans hsplit))
      · rw [hsplit] at hchars
        exact hsign (String.toList_inj.mp hchars)
    | cons c more =>
      rw [hrest] at hsplit hstop
      exact .inr ⟨_, .invalidDigit hsplit hdigits hvalue (hstop c rfl)⟩
  · exact .inr ⟨_, .overflow hsplit hdigits (Nat.not_le.mp hvalue)⟩

/-- A text is read as the number that it denotes. -/
lemma readNumeral_eq_ok_iff : readNumeral limit text = .ok n ↔ Denotes text n ∧ n ≤ limit := by
  constructor
  · intro hread
    rcases denotes_or_fault limit text with ⟨m, hdenotes, hm⟩ | ⟨error, hfault⟩
    · obtain rfl : m = n := Except.ok.inj ((readNumeral_of_denotes hdenotes hm).symm.trans hread)
      exact ⟨hdenotes, hm⟩
    · rw [readNumeral_of_fault hfault] at hread
      cases hread
  · rintro ⟨hdenotes, hn⟩
    exact readNumeral_of_denotes hdenotes hn

/-- A text is refused for its fault. -/
lemma readNumeral_eq_error_iff :
    readNumeral limit text = .error error ↔ Fault limit text error := by
  constructor
  · intro hread
    rcases denotes_or_fault limit text with ⟨m, hdenotes, hm⟩ | ⟨other, hfault⟩
    · rw [readNumeral_of_denotes hdenotes hm] at hread
      cases hread
    · obtain rfl : other = error :=
        Except.error.inj ((readNumeral_of_fault hfault).symm.trans hread)
      exact hfault
  · exact readNumeral_of_fault

end AnnotationReview.Text
