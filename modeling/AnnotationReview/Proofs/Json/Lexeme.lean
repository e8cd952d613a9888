import AnnotationReview.Proofs.Json.Grammar
import Mathlib.Data.List.TakeWhile
import Mathlib.Tactic.Lemma

/-!
# Lexemes are read as they are written

Whatever way a number or a string is written, it is read as what it says, and what follows is left.
A number ends where something stands that cannot go on with it, which is why the bytes behind a
value have to be `Delimited`; a string ends with its quote.
-/

namespace AnnotationReview.Json

variable {w s rest digits fraction exponent : Bytes} {b : UInt8} {n : NumberText}
  {pieces : List Piece}

/-! ## Blanks -/

lemma skipBlanks_append (hw : AreBlanks w) (s : Bytes) : skipBlanks (w ++ s) = skipBlanks s :=
  List.dropWhile_append_of_pos hw

lemma skipBlanks_cons (hb : isBlank b = false) (s : Bytes) : skipBlanks (b :: s) = b :: s :=
  List.dropWhile_cons_of_neg (by simp [hb])

/-- Blanks end at a lexeme. -/
lemma skipBlanks_append_cons (hw : AreBlanks w) (hb : isBlank b = false) (s : Bytes) :
    skipBlanks (w ++ b :: s) = b :: s := by
  rw [skipBlanks_append hw, skipBlanks_cons hb]

lemma skipBlanks_of_blanks (hw : AreBlanks w) : skipBlanks w = [] :=
  List.dropWhile_eq_nil_iff.mpr hw

/-! ## What follows a value -/

/-- The first byte, if there is one, is of a class. -/
def Begins (p : UInt8 → Prop) (s : Bytes) : Prop := ∀ b ∈ s.head?, p b

/-- A byte that may stand right behind a value. -/
def IsDelimiter (b : UInt8) : Prop := isBlank b = true ∨ b = 0x2C ∨ b = 0x5D ∨ b = 0x7D

/-- Bytes that may stand right behind a value. -/
def Delimited (s : Bytes) : Prop := Begins IsDelimiter s

/-- A byte that goes on with a number. -/
def continuesNumber (b : UInt8) : Bool := isDigit b || b == 0x2E || b == 0x65 || b == 0x45

lemma Begins.mono {p q : UInt8 → Prop} (hs : Begins p s) (hpq : ∀ b, p b → q b) : Begins q s :=
  fun b hb => hpq b (hs b hb)

lemma Begins.append {p : UInt8 → Prop} (hs : Begins p s) (hrest : Begins p rest) :
    Begins p (s ++ rest) := by
  cases s with
  | nil => exact hrest
  | cons b s => exact hs

lemma IsDelimiter.not_continuesNumber (hb : IsDelimiter b) : continuesNumber b = false := by
  rcases hb with hb | rfl | rfl | rfl
  · simp only [isBlank, Bool.or_eq_true, beq_iff_eq] at hb
    rcases hb with ((rfl | rfl) | rfl) | rfl <;> decide
  · decide
  · decide
  · decide

lemma begins_nil {p : UInt8 → Prop} : Begins p [] := by
  intro b hb
  cases hb

lemma delimited_of_blanks (hw : AreBlanks w) : Delimited w :=
  fun b hb => Or.inl (hw b (List.mem_of_mem_head? hb))

/-- Blanks may be followed by a comma or a closing bracket. -/
lemma delimited_blanks_append (hw : AreBlanks w) (hs : Delimited s) : Delimited (w ++ s) :=
  (delimited_of_blanks hw).append hs

/-! ## Numbers -/

lemma AreDigits.exists_cons (hdigits : AreDigits digits) :
    ∃ b more, digits = b :: more ∧ isDigit b = true := by
  obtain ⟨b, more, rfl⟩ := List.exists_cons_of_ne_nil hdigits.filled
  exact ⟨b, more, rfl, hdigits.decimal b List.mem_cons_self⟩

lemma scanDigits_append (hdigits : AreDigits digits)
    (hrest : Begins (fun b => isDigit b = false) rest) :
    scanDigits (digits ++ rest) = .ok (digits, rest) := by
  have htake : rest.takeWhile isDigit = [] ∧ rest.dropWhile isDigit = rest := by
    cases rest with
    | nil => exact ⟨rfl, rfl⟩
    | cons b rest =>
      have hb : ¬isDigit b = true := by simp [hrest b rfl]
      exact ⟨List.takeWhile_cons_of_neg hb, List.dropWhile_cons_of_neg hb⟩
  rw [scanDigits, List.takeWhile_append_of_pos hdigits.decimal, htake.1, List.append_nil,
    List.dropWhile_append_of_pos hdigits.decimal, htake.2]
  obtain ⟨b, more, rfl, -⟩ := hdigits.exists_cons
  rfl

lemma scanFraction_append (hfraction : SpellsFraction digits fraction)
    (hrest : Begins (fun b => isDigit b = false ∧ b ≠ 0x2E) rest) :
    scanFraction (fraction ++ rest) = .ok (digits, rest) := by
  cases hfraction with
  | none =>
    rw [List.nil_append, scanFraction.eq_def]
    split
    next => exact absurd rfl (hrest 0x2E rfl).2
    next => rfl
  | some hdigits => exact scanDigits_append hdigits (hrest.mono fun b hb => hb.1)

lemma scanExponent_append {exponent? : Option (Bool × Bytes)}
    (hexponent : SpellsExponent exponent? exponent)
    (hrest : Begins (fun b => continuesNumber b = false) rest) :
    scanExponent (exponent ++ rest) = .ok (exponent?, rest) := by
  have hstop : Begins (fun b => isDigit b = false) rest := hrest.mono fun b hb => by
    simp only [continuesNumber, Bool.or_eq_false_iff] at hb
    exact hb.1.1.1
  cases hexponent with
  | none =>
    cases rest with
    | nil => rfl
    | cons b rest =>
      have hb := hrest b rfl
      simp only [continuesNumber, Bool.or_eq_false_iff, beq_eq_false_iff_ne] at hb
      simp [scanExponent, hb.1.2, hb.2]
  | unsigned hletter hdigits =>
    have hread := scanDigits_append hdigits hstop
    obtain ⟨b, more, rfl, hb⟩ := hdigits.exists_cons
    have hminus : b ≠ 0x2D := by rintro rfl; exact absurd hb (by decide)
    have hplus : b ≠ 0x2B := by rintro rfl; exact absurd hb (by decide)
    rw [List.cons_append] at hread
    simp only [List.cons_append, scanExponent, if_pos hletter]
    split
    next heq => exact absurd (List.cons.inj heq).1 hminus
    next heq => exact absurd (List.cons.inj heq).1 hplus
    next => rw [hread]; rfl
  | positive hletter hdigits =>
    simp only [List.cons_append, scanExponent, if_pos hletter, scanDigits_append hdigits hstop]
    rfl
  | negative hletter hdigits =>
    simp only [List.cons_append, scanExponent, if_pos hletter, scanDigits_append hdigits hstop]
    rfl

lemma SpellsExponent.begins {exponent? : Option (Bool × Bytes)}
    (hexponent : SpellsExponent exponent? exponent) :
    Begins (fun b => isDigit b = false ∧ b ≠ 0x2E) exponent := by
  have hletters : ∀ letter : UInt8, letter = 0x65 ∨ letter = 0x45 →
      isDigit letter = false ∧ letter ≠ 0x2E := by
    rintro letter (rfl | rfl) <;> decide
  cases hexponent with
  | none => exact begins_nil
  | unsigned hletter => rintro _ ⟨⟩; exact hletters _ hletter
  | positive hletter => rintro _ ⟨⟩; exact hletters _ hletter
  | negative hletter => rintro _ ⟨⟩; exact hletters _ hletter

lemma SpellsFraction.begins (hfraction : SpellsFraction digits fraction) :
    Begins (fun b => isDigit b = false) fraction := by
  cases hfraction with
  | none => exact begins_nil
  | some => rintro _ ⟨⟩; decide

/-- A number behind its sign. -/
def scanUnsigned (negative : Bool) (s : Bytes) : Except Fault (NumberText × Bytes) := do
  let (whole, s) ← scanDigits s
  if whole.head? = some 0x30 ∧ whole.length ≠ 1 then .error .malformed
  else
    let (fraction, s) ← scanFraction s
    let (exponent?, s) ← scanExponent s
    return (⟨negative, whole, fraction, exponent?⟩, s)

lemma scanNumber_negative (s : Bytes) : scanNumber (0x2D :: s) = scanUnsigned true s := rfl

lemma scanNumber_unsigned (hb : isDigit b = true) (s : Bytes) :
    scanNumber (b :: s) = scanUnsigned false (b :: s) := by
  have hminus : b ≠ 0x2D := by rintro rfl; exact absurd hb (by decide)
  unfold scanNumber scanUnsigned
  split
  next hsign =>
    split at hsign
    next heq => exact absurd (List.cons.inj heq).1 hminus
    next => cases hsign; rfl

/-- A number is read as its parts. -/
lemma scanNumber_append (hn : SpellsNumber n s) (hrest : Delimited rest) :
    scanNumber (s ++ rest) = .ok (n, rest) := by
  cases hn with
  | @mk fraction exponent hwhole hzero hfraction hexponent =>
    have hstop : Begins (fun b => continuesNumber b = false) rest :=
      hrest.mono fun b hb => hb.not_continuesNumber
    have hexponentRest : Begins (fun b => isDigit b = false ∧ b ≠ 0x2E) (exponent ++ rest) := by
      refine hexponent.begins.append (hstop.mono fun b hb => ?_)
      simp only [continuesNumber, Bool.or_eq_false_iff, beq_eq_false_iff_ne] at hb
      exact ⟨hb.1.1.1, hb.1.1.2⟩
    have hleading : ¬(n.whole.head? = some 0x30 ∧ n.whole.length ≠ 1) :=
      fun h => h.2 (hzero h.1)
    have hunsigned : scanUnsigned n.negative (n.whole ++ (fraction ++ (exponent ++ rest))) =
        .ok (n, rest) := by
      rw [scanUnsigned, scanDigits_append hwhole
        (hfraction.begins.append (hexponentRest.mono fun b hb => hb.1))]
      show (if _ then _ else _) = _
      rw [if_neg hleading, scanFraction_append hfraction hexponentRest]
      show (scanExponent (exponent ++ rest) >>= _) = _
      rw [scanExponent_append hexponent hstop]
      rfl
    rw [List.append_assoc, List.append_assoc, List.append_assoc]
    cases hnegative : n.negative with
    | true =>
      rw [hnegative] at hunsigned
      exact (scanNumber_negative _).trans hunsigned
    | false =>
      obtain ⟨b, more, hb, hdigit⟩ := hwhole.exists_cons
      rw [hnegative, hb] at hunsigned
      rw [hb]
      exact (scanNumber_unsigned hdigit _).trans hunsigned

/-- A number begins with its sign or with a digit. -/
lemma SpellsNumber.exists_cons (hn : SpellsNumber n s) :
    ∃ b more, s = b :: more ∧ (b = 0x2D ∨ isDigit b = true) := by
  cases hn with
  | mk hwhole =>
    obtain ⟨b, more, hb, hdigit⟩ := hwhole.exists_cons
    rw [hb]
    cases n.negative with
    | true => exact ⟨_, _, rfl, Or.inl rfl⟩
    | false => exact ⟨_, _, rfl, Or.inr hdigit⟩

/-! ## Strings -/

lemma escapedByte?_of_mem {letter : UInt8} (hletter : (letter, b) ∈ escapes) :
    escapedByte? letter = some b ∧ letter ≠ 0x75 := by
  have hall : (escapes.all fun pair =>
      escapedByte? pair.1 = some pair.2 ∧ pair.1 ≠ 0x75) = true := by decide
  exact of_decide_eq_true (List.all_eq_true.mp hall _ hletter)

lemma scanPieces_unit (s : Bytes) :
    scanPieces .between (0x5C :: 0x75 :: s) = scanPieces (.hex 3 0) s := rfl

lemma scanPieces_hex {digit : Nat} (hdigit : hexValue? b = some digit) {missing value : Nat} :
    scanPieces (.hex (missing + 1) value) (b :: s) =
      scanPieces (.hex missing (16 * value + digit)) s := by
  simp only [scanPieces, hdigit]

lemma scanPieces_hex_last {digit : Nat} (hdigit : hexValue? b = some digit) {value : Nat} :
    scanPieces (.hex 0 value) (b :: s) = (do
      let (pieces, rest) ← scanPieces .between s
      return (.unit (16 * value + digit) :: pieces, rest)) := by
  simp only [scanPieces, hdigit]

/-- A string is read as its pieces, up to its quote. -/
lemma scanPieces_append (hpieces : SpellsString pieces s) (rest : Bytes) :
    scanPieces .between (s ++ 0x22 :: rest) = .ok (pieces, rest) := by
  induction hpieces with
  | nil => rfl
  | plain hcontrol hquote hbackslash hmore ih =>
    rw [List.cons_append, scanPieces, if_neg hquote, if_neg hbackslash,
      if_neg (UInt8.not_lt.mpr hcontrol), ih]
    rfl
  | escape hletter hmore ih =>
    obtain ⟨hvalue, hunit⟩ := escapedByte?_of_mem hletter
    simp only [List.cons_append, scanPieces, if_neg hunit, hvalue, ih]
    rfl
  | unit ha hb hc hd hmore ih =>
    simp only [List.cons_append]
    rw [scanPieces_unit, scanPieces_hex ha, scanPieces_hex hb, scanPieces_hex hc,
      scanPieces_hex_last hd, ih, Nat.mul_zero, Nat.zero_add]
    rfl

end AnnotationReview.Json
