import AnnotationReview.Proofs.Text.Split
import AnnotationReview.Proofs.Text.Utf8
import AnnotationReview.Url.Form

/-!
# Parameters are read back from a query

A query that was written from parameters tells just these, in their order
(`readParameters_writeParameters`).  Every byte of a name or a value is written as one piece, a
sign or an escape, and each piece is read as its byte whatever follows it.  No piece holds an
ampersand or an equals sign, so a query falls apart where its pairs were joined and a pair where
its name ends.
-/

namespace AnnotationReview.Url

variable {b h l high low : UInt8}

/-! ## Escapes -/

lemma percentDecode_of_ne (hb : b ≠ 37) (rest : Bytes) :
    percentDecode (b :: rest) = b :: percentDecode rest := by
  rw [percentDecode]
  intro _ _ _ hpercent
  exact absurd hpercent hb

lemma percentDecode_escape (hhigh : hexValue? h = some high) (hlow : hexValue? l = some low)
    (rest : Bytes) :
    percentDecode (37 :: h :: l :: rest) = (high * 16 + low) :: percentDecode rest := by
  rw [percentDecode, hhigh, hlow]

/-- A digit has the value it was written for. -/
lemma hexValue?_hexDigit {n : Nat} (hn : n < 16) :
    hexValue? (UInt8.ofNat (hexDigit n).toNat) = some (UInt8.ofNat n) := by
  decide +revert

/-- The two digits of a byte make up the byte. -/
lemma ofNat_digits (b : UInt8) :
    UInt8.ofNat (b.toNat / 16) * 16 + UInt8.ofNat (b.toNat % 16) = b := by
  apply UInt8.toNat_inj.mp
  have hb := b.toNat_lt
  simp only [UInt8.toNat_add, UInt8.toNat_mul, UInt8.toNat_ofNat', UInt8.reduceToNat]
  omega

/-! ## One byte -/

/-- What a query may consist of between its separators. -/
def IsFormChar (c : Char) : Prop := c.toNat < 128 ∧ c ≠ '&' ∧ c ≠ '='

/-- The bytes of a piece of a query, with spaces for plus signs. -/
def formBytes (cs : List Char) : Bytes :=
  (cs.map fun c => if c = '+' then ' ' else c).flatMap String.utf8EncodeChar

lemma formBytes_append (cs cs' : List Char) :
    formBytes (cs ++ cs') = formBytes cs ++ formBytes cs' := by
  rw [formBytes, List.map_append, List.flatMap_append]
  rfl

lemma formBytes_cons {c : Char} (hascii : c.toNat < 128) (hplus : c ≠ '+') (cs : List Char) :
    formBytes (c :: cs) = UInt8.ofNat c.toNat :: formBytes cs := by
  rw [formBytes, List.map_cons, if_neg hplus, List.flatMap_cons, Text.utf8EncodeChar_of_lt hascii]
  rfl

lemma hexDigit_spec {n : Nat} (hn : n < 16) : IsFormChar (hexDigit n) ∧ hexDigit n ≠ '+' := by
  unfold IsFormChar
  decide +revert

/-- A byte that stands for itself is a letter, a digit or one of four signs. -/
lemma spec_of_keptInForm (hkept : keptInForm b = true) :
    IsFormChar (Char.ofNat b.toNat) ∧ Char.ofNat b.toNat ≠ '+' ∧
      UInt8.ofNat (Char.ofNat b.toNat).toNat = b ∧ b ≠ 37 := by
  have hrange : 48 ≤ b.toNat ∧ b.toNat ≤ 57 ∨ 65 ≤ b.toNat ∧ b.toNat ≤ 90 ∨
      97 ≤ b.toNat ∧ b.toNat ≤ 122 ∨ b.toNat = 42 ∨ b.toNat = 45 ∨ b.toNat = 46 ∨
      b.toNat = 95 := by
    simpa [keptInForm, UInt8.le_iff_toNat_le, ← UInt8.toNat_inj, or_assoc] using hkept
  have hvalue : (Char.ofNat b.toNat).toNat = b.toNat := Text.toNat_ofNat_of_lt (by omega)
  have hne : ∀ c : Char, c.toNat ≠ b.toNat → Char.ofNat b.toNat ≠ c := by
    rintro c hc rfl
    exact hc hvalue
  refine ⟨⟨by omega, hne _ ?_, hne _ ?_⟩, hne _ ?_, ?_, ?_⟩
  · simp; omega
  · simp; omega
  · simp; omega
  · rw [hvalue, UInt8.ofNat_toNat]
  · rintro rfl
    simp at hrange

/-- Every byte is written in characters of a query. -/
lemma isFormChar_of_mem_formByte {c : Char} (hc : c ∈ formByte b) : IsFormChar c := by
  unfold formByte at hc
  split at hc
  next hkept =>
    obtain rfl := List.mem_singleton.mp hc
    exact (spec_of_keptInForm hkept).1
  next =>
    split at hc
    next =>
      obtain rfl := List.mem_singleton.mp hc
      unfold IsFormChar
      decide
    next =>
      have hb := b.toNat_lt
      simp only [percentByte, List.mem_cons, List.not_mem_nil, or_false] at hc
      rcases hc with rfl | rfl | rfl
      · unfold IsFormChar
        decide
      · exact (hexDigit_spec (by omega)).1
      · exact (hexDigit_spec (by omega)).1

/-- A byte is read from what it is written as, whatever follows. -/
lemma percentDecode_formByte (b : UInt8) (rest : Bytes) :
    percentDecode (formBytes (formByte b) ++ rest) = b :: percentDecode rest := by
  have hb := b.toNat_lt
  unfold formByte
  split
  next hkept =>
    obtain ⟨⟨hascii, -, -⟩, hplus, hbyte, hpercent⟩ := spec_of_keptInForm hkept
    rw [formBytes_cons hascii hplus, hbyte]
    exact percentDecode_of_ne hpercent rest
  next =>
    split
    next hspace =>
      subst hspace
      exact percentDecode_of_ne (by decide) rest
    next =>
      obtain ⟨⟨hhigh, -, -⟩, hplus⟩ := hexDigit_spec (n := b.toNat / 16) (by omega)
      obtain ⟨⟨hlow, -, -⟩, hplus'⟩ := hexDigit_spec (n := b.toNat % 16) (by omega)
      rw [percentByte, formBytes_cons (by decide) (by decide), formBytes_cons hhigh hplus,
        formBytes_cons hlow hplus']
      have hread := percentDecode_escape (hexValue?_hexDigit (n := b.toNat / 16) (by omega))
        (hexValue?_hexDigit (n := b.toNat % 16) (by omega)) rest
      rw [ofNat_digits] at hread
      exact hread

/-! ## A name or a value -/

lemma isFormChar_of_mem_formEncode {text : String} {c : Char} (hc : c ∈ formEncode text) :
    IsFormChar c := by
  obtain ⟨b, -, hb⟩ := List.mem_flatMap.mp hc
  exact isFormChar_of_mem_formByte hb

lemma percentDecode_formBytes (bytes : Bytes) :
    percentDecode (formBytes (bytes.flatMap formByte)) = bytes := by
  induction bytes with
  | nil => rfl
  | cons b bytes ih =>
    rw [List.flatMap_cons, formBytes_append, percentDecode_formByte, ih]

/-- A name or a value is read back, whatever characters it has. -/
lemma formDecode_formEncode (text : String) : formDecode (formEncode text) = some text := by
  have hbytes := percentDecode_formBytes (Text.encode text)
  change Text.decode? (percentDecode (formBytes ((Text.encode text).flatMap formByte))) = _
  rw [hbytes, Text.decode?_encode]

/-! ## Parameters -/

lemma readParameter_writeParameter (p : Parameter) : readParameter (writeParameter p) = some p := by
  have hname : '=' ∉ formEncode p.1 := fun hmem => (isFormChar_of_mem_formEncode hmem).2.2 rfl
  rw [readParameter, writeParameter, Text.splitFirst?_append hname]
  simp [formDecode_formEncode]

/-- A pair has no ampersand. -/
lemma ampersand_notMem_writeParameter (p : Parameter) : '&' ∉ writeParameter p := by
  have hpart : ∀ text, '&' ∉ formEncode text :=
    fun text hmem => (isFormChar_of_mem_formEncode hmem).2.1 rfl
  simp [writeParameter, hpart]

/-- A query falls apart into the pairs it was made of. -/
lemma splitOn_writeParameters (p : Parameter) (ps : List Parameter) :
    Text.splitOn '&' (writeParameters (p :: ps)) = (p :: ps).map writeParameter := by
  induction ps generalizing p with
  | nil => exact Text.splitOn_of_not_mem (ampersand_notMem_writeParameter p)
  | cons q ps ih =>
    rw [writeParameters, Text.splitOn_append,
      Text.splitOn_of_not_mem (ampersand_notMem_writeParameter p), ih, List.map_cons]
    rfl

/-- **Parameters are read back from the query they are written as.** -/
lemma readParameters_writeParameters (ps : List Parameter) :
    readParameters (writeParameters ps) = some ps := by
  have hall : ∀ ps : List Parameter, (ps.map writeParameter).mapM readParameter = some ps := by
    intro ps
    induction ps with
    | nil => rfl
    | cons p ps ih => simp [readParameter_writeParameter, ih]
  cases ps with
  | nil => rfl
  | cons p ps =>
    have hfilled : (writeParameters (p :: ps)).isEmpty = false := by
      cases ps <;> simp [writeParameters, writeParameter]
    rw [readParameters, hfilled, if_neg Bool.false_ne_true, splitOn_writeParameters, hall]

end AnnotationReview.Url
