import AnnotationReview.Text.Utf8
import Mathlib.Data.List.Basic
import Mathlib.Tactic.Lemma

/-!
# Texts and their bytes

A text is read back from its bytes (`decode?_encode`).  Each of its characters takes one to four
bytes, and its bytes are read as that character whatever follows them, so that the whole is read
one character at a time.
-/

namespace AnnotationReview.Text

variable {a b c d : UInt8} {rest : Bytes}

/-! ## One sequence -/

lemma isContinuation_iff : isContinuation b = true ↔ 0x80 ≤ b.toNat ∧ b.toNat ≤ 0xBF := by
  simp [isContinuation, UInt8.le_iff_toNat_le]

/-- A byte that continues a sequence may be the second one unless the first byte says otherwise. -/
lemma isSecond_of_isContinuation (hb : isContinuation b = true)
    (hE0 : a.toNat = 0xE0 → 0xA0 ≤ b.toNat) (hED : a.toNat = 0xED → b.toNat ≤ 0x9F)
    (hF0 : a.toNat = 0xF0 → 0x90 ≤ b.toNat) (hF4 : a.toNat = 0xF4 → b.toNat ≤ 0x8F) :
    isSecond a b = true := by
  obtain ⟨hlow, hhigh⟩ := isContinuation_iff.mp hb
  unfold isSecond
  split
  next h => simp [UInt8.le_iff_toNat_le, hE0 (by simp [h]), hhigh]
  next =>
    split
    next h => simp [UInt8.le_iff_toNat_le, hED (by simp [h]), hlow]
    next =>
      split
      next h => simp [UInt8.le_iff_toNat_le, hF0 (by simp [h]), hhigh]
      next =>
        split
        next h => simp [UInt8.le_iff_toNat_le, hF4 (by simp [h]), hlow]
        next => exact hb

/-- The code point is what the bits amount to. -/
lemma ofParts_eq {lead : Nat} {tail : Bytes} {char : Char}
    (hvalue : tail.foldl (fun n b => n * 64 + b.toNat % 64) lead = char.toNat) :
    ofParts lead tail = char := by
  rw [ofParts, hvalue, Char.ofNat_toNat]

lemma decodeParts_one (ha : a < 0x80) :
    decodeParts (a :: rest) = some (Char.ofNat a.toNat) :: decodeParts rest := by
  rw [decodeParts.eq_def]
  simp [ha]

lemma decodeParts_two (ha : ¬a < 0x80) (hfault : (a < 0xC2 || 0xF4 < a) = false)
    (htwo : a < 0xE0) (hb : isSecond a b = true) :
    decodeParts (a :: b :: rest) = some (ofParts (a.toNat % 32) [b]) :: decodeParts rest := by
  rw [decodeParts.eq_def]
  simp [ha, hfault, htwo, hb]

lemma decodeParts_three (ha : ¬a < 0x80) (hfault : (a < 0xC2 || 0xF4 < a) = false)
    (htwo : ¬a < 0xE0) (hthree : a < 0xF0) (hb : isSecond a b = true)
    (hc : isContinuation c = true) :
    decodeParts (a :: b :: c :: rest) =
      some (ofParts (a.toNat % 16) [b, c]) :: decodeParts rest := by
  rw [decodeParts.eq_def]
  simp [ha, hfault, htwo, hthree, hb, hc]

lemma decodeParts_four (ha : ¬a < 0x80) (hfault : (a < 0xC2 || 0xF4 < a) = false)
    (htwo : ¬a < 0xE0) (hthree : ¬a < 0xF0) (hb : isSecond a b = true)
    (hc : isContinuation c = true) (hd : isContinuation d = true) :
    decodeParts (a :: b :: c :: d :: rest) =
      some (ofParts (a.toNat % 8) [b, c, d]) :: decodeParts rest := by
  rw [decodeParts.eq_def]
  simp [ha, hfault, htwo, hthree, hb, hc, hd]

/-- The bytes of a character are read as the character, whatever follows. -/
lemma decodeParts_char (char : Char) (rest : Bytes) :
    decodeParts (String.utf8EncodeChar char ++ rest) = some char :: decodeParts rest := by
  have hvalid : char.toNat < 0xD800 ∨ 0xDFFF < char.toNat ∧ char.toNat < 0x110000 := char.valid
  -- a byte in range keeps its value
  have hbyte : ∀ n < 256, (UInt8.ofNat n).toNat = n := fun n hn => UInt8.toNat_ofNat_of_lt hn
  have htail : ∀ n, (UInt8.ofNat (n % 64 + 128)).toNat = n % 64 + 128 :=
    fun n => hbyte _ (by omega)
  have hcontinues : ∀ n, isContinuation (UInt8.ofNat (n % 64 + 128)) = true := fun n =>
    isContinuation_iff.mpr (by rw [htail]; omega)
  unfold String.utf8EncodeChar
  change decodeParts ((if char.toNat ≤ 0x7f then _ else if char.toNat ≤ 0x7ff then _
    else if char.toNat ≤ 0xffff then _ else _) ++ rest) = _
  split
  next hone =>
    have ha := hbyte char.toNat (by omega)
    have hlow : UInt8.ofNat char.toNat < 0x80 := by rw [UInt8.lt_iff_toNat_lt, ha]; simp; omega
    show decodeParts (UInt8.ofNat char.toNat :: rest) = _
    rw [decodeParts_one hlow, ha, Char.ofNat_toNat]
  next hone =>
    split
    next htwo =>
      have ha := hbyte (char.toNat / 64 % 32 + 192) (by omega)
      show decodeParts (UInt8.ofNat (char.toNat / 64 % 32 + 192) :: UInt8.ofNat _ :: rest) = _
      rw [decodeParts_two _ _ _ (isSecond_of_isContinuation (hcontinues _) _ _ _ _), ofParts_eq]
      all_goals simp [UInt8.lt_iff_toNat_lt, *]
      all_goals omega
    next htwo =>
      split
      next hthree =>
        have ha := hbyte (char.toNat / 4096 % 16 + 224) (by omega)
        show decodeParts (UInt8.ofNat (char.toNat / 4096 % 16 + 224) :: UInt8.ofNat _ ::
          UInt8.ofNat _ :: rest) = _
        rw [decodeParts_three _ _ _ _ (isSecond_of_isContinuation (hcontinues _) _ _ _ _)
          (hcontinues _), ofParts_eq]
        all_goals simp [UInt8.lt_iff_toNat_lt, *]
        all_goals omega
      next hthree =>
        have ha := hbyte (char.toNat / 262144 % 8 + 240) (by omega)
        show decodeParts (UInt8.ofNat (char.toNat / 262144 % 8 + 240) :: UInt8.ofNat _ ::
          UInt8.ofNat _ :: UInt8.ofNat _ :: rest) = _
        rw [decodeParts_four _ _ _ _ (isSecond_of_isContinuation (hcontinues _) _ _ _ _)
          (hcontinues _) (hcontinues _), ofParts_eq]
        all_goals simp [UInt8.lt_iff_toNat_lt, *]
        all_goals omega

lemma toNat_ofNat_of_lt {n : Nat} (hn : n < 128) : (Char.ofNat n).toNat = n := by
  have hvalid : n.isValidChar := Or.inl (by omega)
  rw [Char.ofNat, dif_pos hvalid]
  rfl

/-- A character of ASCII is one byte. -/
lemma utf8EncodeChar_of_lt {char : Char} (hchar : char.toNat < 128) :
    String.utf8EncodeChar char = [UInt8.ofNat char.toNat] := by
  have hone : char.val.toNat ≤ 0x7f := Nat.le_of_lt_succ hchar
  rw [String.utf8EncodeChar, if_pos hone]
  rfl

/-! ## The whole text -/

lemma decodeParts_flatMap (chars : List Char) :
    decodeParts (chars.flatMap String.utf8EncodeChar) = chars.map some := by
  induction chars with
  | nil => rfl
  | cons char chars ih => rw [List.flatMap_cons, decodeParts_char, ih, List.map_cons]

/-- **A text is read back from its bytes.** -/
lemma decode?_encode (text : String) : decode? (encode text) = some text := by
  have hall : ∀ chars : List Char, (chars.map some).mapM id = some chars := by
    intro chars
    induction chars with
    | nil => rfl
    | cons char chars ih => simp [ih]
  rw [decode?, encode, decodeParts_flatMap, hall, Option.map_some, String.ofList_toList]

end AnnotationReview.Text
