import AnnotationReview.Proofs.Text.Utf8
import AnnotationReview.Text.HeaderValue

/-!
# Header values as bytes

A header value arrives as bytes.  It is readable as text if each of its bytes is (`IsReadableByte`),
and then each byte is one letter; a value with any other byte does not become readable by putting
replacements for what is no text.  What is readable may be sent in a header again.
-/

namespace AnnotationReview.Text

/-- The byte is visible ASCII, a space or a tab. -/
def IsReadableByte (b : UInt8) : Prop := b = 0x09 ∨ 0x20 ≤ b ∧ b ≤ 0x7E

instance : DecidablePred IsReadableByte := fun _ => inferInstanceAs (Decidable (_ ∨ _))

/-- The letters of a value, one for each byte. -/
def lettersOf (value : Bytes) : List Char := value.map fun b => Char.ofNat b.toNat

variable {value : Bytes} {b : UInt8} {text : String}

lemma IsReadableByte.lt (hb : IsReadableByte b) : b < 0x80 := by
  rcases hb with rfl | ⟨-, hb⟩
  · decide
  · exact UInt8.lt_of_le_of_lt hb (by decide)

lemma isReadableChar_ofNat (hb : b < 0x80) :
    isReadableChar (Char.ofNat b.toNat) = true ↔ IsReadableByte b := by
  have hlt : b.toNat < 128 := UInt8.lt_iff_toNat_lt.mp hb
  rw [isReadableChar, toNat_ofNat_of_lt hlt, IsReadableByte, UInt8.le_iff_toNat_le,
    UInt8.le_iff_toNat_le, ← UInt8.toNat_inj]
  simp only [Bool.or_eq_true, beq_iff_eq, Bool.and_eq_true, decide_eq_true_eq]
  exact or_congr Iff.rfl (and_congr Iff.rfl Nat.lt_succ_iff)

lemma not_isReadableChar_ofNat {n : Nat} (hn : 0x80 ≤ n) :
    isReadableChar (Char.ofNat n) = false := by
  by_cases hvalid : n.isValidChar
  · have hvalue : (Char.ofNat n).toNat = n := by
      rw [Char.ofNat, dif_pos hvalid]
      rfl
    rw [isReadableChar, hvalue]
    simp only [Bool.or_eq_false_iff, beq_eq_false_iff_ne, Bool.and_eq_false_iff,
      decide_eq_false_iff_not]
    omega
  · rw [Char.ofNat, dif_neg hvalid]
    decide

/-- The second byte keeps a longer sequence from denoting a letter of ASCII. -/
lemma le_of_isSecond {a : UInt8} (hsecond : isSecond a b = true) :
    (a.toNat = 0xE0 → 0xA0 ≤ b.toNat ∧ b.toNat ≤ 0xBF) ∧
      (a.toNat = 0xF0 → 0x90 ≤ b.toNat ∧ b.toNat ≤ 0xBF) := by
  have heq : ∀ n < 256, a.toNat = n → a = UInt8.ofNat n := by
    rintro n hn rfl
    exact (UInt8.ofNat_toNat).symm
  constructor
  · intro ha
    rw [heq 0xE0 (by decide) ha] at hsecond
    simpa [isSecond, UInt8.le_iff_toNat_le] using hsecond
  · intro ha
    rw [heq 0xF0 (by decide) ha] at hsecond
    simpa [isSecond, UInt8.le_iff_toNat_le] using hsecond

/-- Readable bytes are read as letters, one for each. -/
lemma decodeParts_of_readable (hvalue : ∀ b ∈ value, IsReadableByte b) :
    decodeParts value = (lettersOf value).map some := by
  induction value with
  | nil => rfl
  | cons b value ih =>
    obtain ⟨hb, hvalue⟩ := List.forall_mem_cons.mp hvalue
    rw [decodeParts_one hb.lt, ih hvalue]
    rfl

/-- Nothing else is read as readable letters: a fault is replaced by a letter that is not readable,
and a sequence of several bytes is a letter beyond ASCII. -/
lemma readable_of_decodeParts (hvalue : ∀ part ∈ decodeParts value,
    isReadableChar (part.getD '\uFFFD') = true) : ∀ b ∈ value, IsReadableByte b := by
  have hfault : ∀ parts, ¬∀ part ∈ none :: parts, isReadableChar (part.getD '\uFFFD') = true :=
    fun parts hall => absurd (hall none List.mem_cons_self) (by decide)
  have hletter : ∀ {lead tail parts}, 0x80 ≤ tail.foldl (fun n b => n * 64 + b.toNat % 64) lead →
      ¬∀ part ∈ some (ofParts lead tail) :: parts,
        isReadableChar (part.getD '\uFFFD') = true := by
    intro lead tail parts hlarge hall
    have hreadable := hall _ List.mem_cons_self
    rw [Option.getD_some, ofParts, not_isReadableChar_ofNat hlarge] at hreadable
    cases hreadable
  have hrange : ∀ {a : UInt8}, ¬(a < 0xC2 || 0xF4 < a) = true →
      0xC2 ≤ a.toNat ∧ a.toNat ≤ 0xF4 := by
    intro a ha
    simpa [UInt8.lt_iff_toNat_lt] using ha
  fun_induction decodeParts value with
  | case1 => simp
  | case2 b rest hb ih =>
    obtain ⟨hfirst, hvalue⟩ := List.forall_mem_cons.mp hvalue
    exact List.forall_mem_cons.mpr ⟨(isReadableChar_ofNat hb).mp hfirst, ih hvalue⟩
  | case3 | case4 | case5 | case7 | case8 | case10 | case11 => exact (hfault _ hvalue).elim
  | case6 a _ hvalid b rest _ htwo =>
    obtain ⟨hlow, -⟩ := hrange hvalid
    rw [UInt8.lt_iff_toNat_lt] at htwo
    refine (hletter ?_ hvalue).elim
    simp only [List.foldl_cons, List.foldl_nil]
    have hlimit : UInt8.toNat 224 = 224 := rfl
    omega
  | case9 a _ hvalid b hsecond htwo c rest _ hthree =>
    obtain ⟨hE0, -⟩ := le_of_isSecond (by simpa using hsecond)
    rw [UInt8.lt_iff_toNat_lt] at htwo hthree
    refine (hletter ?_ hvalue).elim
    simp only [List.foldl_cons, List.foldl_nil]
    have hlimits : UInt8.toNat 224 = 224 ∧ UInt8.toNat 240 = 240 := ⟨rfl, rfl⟩
    omega
  | case12 a _ hvalid b hsecond _ c _ hthree d rest =>
    obtain ⟨-, hF0⟩ := le_of_isSecond (by simpa using hsecond)
    obtain ⟨-, hhigh⟩ := hrange hvalid
    rw [UInt8.lt_iff_toNat_lt] at hthree
    refine (hletter ?_ hvalue).elim
    simp only [List.foldl_cons, List.foldl_nil]
    have hlimit : UInt8.toNat 240 = 240 := rfl
    omega

/-- A readable value is the text of its letters. -/
lemma toList_decodeLossy (hvalue : ∀ b ∈ value, IsReadableByte b) :
    (decodeLossy value).toList = lettersOf value := by
  rw [decodeLossy, decodeParts_of_readable hvalue, String.toList_ofList, List.map_map]
  exact List.map_id _

/-- A value is readable as text if each of its bytes is. -/
lemma isReadable_decodeLossy :
    isReadable (decodeLossy value) = true ↔ ∀ b ∈ value, IsReadableByte b := by
  constructor
  · intro hreadable
    refine readable_of_decodeParts fun part hpart => ?_
    rw [isReadable, decodeLossy, String.toList_ofList] at hreadable
    exact List.all_eq_true.mp hreadable _ (List.mem_map_of_mem hpart)
  · intro hvalue
    rw [isReadable, toList_decodeLossy hvalue, List.all_eq_true]
    intro c hc
    obtain ⟨b, hb, rfl⟩ := List.mem_map.mp hc
    exact (isReadableChar_ofNat (hvalue b hb).lt).mpr (hvalue b hb)

/-- What is readable may stand in a header. -/
lemma isHeaderValue_of_isReadable (htext : isReadable text = true) :
    isHeaderValue text = true := by
  rw [isHeaderValue, encode, List.all_eq_true]
  intro b hb
  obtain ⟨c, hc, hb⟩ := List.mem_flatMap.mp hb
  have hreadable := List.all_eq_true.mp htext c hc
  simp only [isReadableChar, Bool.or_eq_true, beq_iff_eq, Bool.and_eq_true,
    decide_eq_true_eq] at hreadable
  rw [utf8EncodeChar_of_lt (by omega), List.mem_singleton] at hb
  have hsize : c.toNat < UInt8.size := by
    have hlimit : UInt8.size = 256 := rfl
    omega
  have hvalue : b.toNat = c.toNat := by rw [hb, UInt8.toNat_ofNat_of_lt' hsize]
  simp only [isHeaderByte, Bool.or_eq_true, beq_iff_eq, Bool.and_eq_true, decide_eq_true_eq,
    bne_iff_ne, ne_eq, ← UInt8.toNat_inj, UInt8.le_iff_toNat_le, hvalue]
  have hbytes : UInt8.toNat 9 = 9 ∧ UInt8.toNat 32 = 32 ∧ UInt8.toNat 127 = 127 :=
    ⟨rfl, rfl, rfl⟩
  omega

end AnnotationReview.Text
