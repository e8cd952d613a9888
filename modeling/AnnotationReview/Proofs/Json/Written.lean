import AnnotationReview.Proofs.Json.Denotation
import AnnotationReview.Proofs.Text.Utf8
import Mathlib.Tactic.IntervalCases

/-!
# What is written for a value

The compact text of a value that a tree denotes is a spelling, without blanks, of a tree that
denotes the same value (`Denotes.exists_compact`).  Strings are written with escapes where they
need them, and numbers in their digits, so that each part of the text is read back as what it was
written for; no bracket is added on the way.
-/

namespace AnnotationReview.Json

/-- The bytes of characters. -/
def bytesOf (chars : List Char) : Bytes := chars.flatMap String.utf8EncodeChar

lemma bytesOf_append (chars chars' : List Char) :
    bytesOf (chars ++ chars') = bytesOf chars ++ bytesOf chars' := List.flatMap_append

lemma encode_toText (value : Value) : Text.encode value.toText = bytesOf value.write := by
  rw [Text.encode, Value.toText, String.toList_ofList, bytesOf]

/-! ## Writing without blanks -/

/-- A member that is written without blanks. -/
inductive SpellsMemberCompactly (spells : Tree → Bytes → Prop) :
    List Piece × Tree → Bytes → Prop where
  | mk {key : List Piece} {value : Tree} {k s : Bytes} (hkey : SpellsString key k)
      (hvalue : spells value s) : SpellsMemberCompactly spells (key, value) (writeMember k s)

/-- The ways of writing a value without blanks. -/
inductive SpellsCompactly : Tree → Bytes → Prop where
  | scalar {tree : Tree} {s : Bytes} (hscalar : tree.IsScalar) (hs : Spells tree s) :
      SpellsCompactly tree s
  | array {items : List Tree} {written : List Bytes}
      (hitems : List.Forall₂ SpellsCompactly items written) :
      SpellsCompactly (.array items) (0x5B :: writeItems 0x5D written)
  | object {members : List (List Piece × Tree)} {written : List Bytes}
      (hmembers : List.Forall₂ (SpellsMemberCompactly SpellsCompactly) members written) :
      SpellsCompactly (.object members) (0x7B :: writeItems 0x7D written)

/-! ## Strings -/

section

variable {char : Char}

/-- Beyond ASCII all bytes of a character are. -/
lemma le_of_mem_utf8EncodeChar (hchar : 128 ≤ char.toNat) {b : UInt8}
    (hb : b ∈ String.utf8EncodeChar char) : 0x80 ≤ b := by
  have hlarge : ∀ n, 128 ≤ n → n < 256 → (0x80 : UInt8) ≤ UInt8.ofNat n := by
    intro n hn hlt
    rw [UInt8.le_iff_toNat_le, UInt8.toNat_ofNat_of_lt' hlt]
    exact hn
  have hval : char.val.toNat = char.toNat := rfl
  rw [String.utf8EncodeChar] at hb
  simp only [hval] at hb
  split_ifs at hb with hone htwo hthree
  · omega
  all_goals
    simp only [List.mem_cons, List.not_mem_nil, or_false] at hb
    rcases hb with rfl | rfl | rfl | rfl <;> exact hlarge _ (by omega) (by omega)

/-- A character that is neither a quote nor a backslash nor a control needs no escape. -/
lemma isPlain_utf8EncodeChar (hquote : char ≠ '"') (hbackslash : char ≠ '\\')
    (hcontrol : 32 ≤ char.toNat) : IsPlain (String.utf8EncodeChar char) := by
  intro b hb
  by_cases hascii : char.toNat < 128
  · rw [Text.utf8EncodeChar_of_lt hascii, List.mem_singleton] at hb
    have hsize : char.toNat < UInt8.size := hascii.trans (by decide)
    have hvalue : b.toNat = char.toNat := by rw [hb, UInt8.toNat_ofNat_of_lt' hsize]
    have hother : ∀ other : Char, char ≠ other → b.toNat ≠ other.toNat := by
      intro other hne heq
      exact hne (Char.toNat_inj.mp (hvalue.symm.trans heq))
    refine ⟨?_, ?_, ?_⟩
    · rw [UInt8.le_iff_toNat_le, hvalue]
      exact hcontrol
    · rintro rfl
      exact hother _ hquote rfl
    · rintro rfl
      exact hother _ hbackslash rfl
  · have hlarge := le_of_mem_utf8EncodeChar (Nat.le_of_not_lt hascii) hb
    refine ⟨?_, ?_, ?_⟩
    · exact UInt8.le_trans (by decide) hlarge
    · rintro rfl
      exact absurd hlarge (by decide)
    · rintro rfl
      exact absurd hlarge (by decide)

end

/-- Pieces are a way of writing bytes, whatever stands behind them. -/
structure Writes (pieces : List Piece) (written bytes : Bytes) : Prop where
  spells : ∀ {more s}, SpellsString more s → SpellsString (pieces ++ more) (written ++ s)
  joins : ∀ more, joinPieces? (pieces ++ more) = (joinPieces? more).map (bytes ++ ·)

lemma writes_nil : Writes [] [] [] where
  spells := id
  joins more := by
    rw [List.nil_append]
    exact Option.map_id'.symm

lemma Writes.append {pieces pieces' : List Piece} {written written' bytes bytes' : Bytes}
    (hfirst : Writes pieces written bytes) (hsecond : Writes pieces' written' bytes') :
    Writes (pieces ++ pieces') (written ++ written') (bytes ++ bytes') where
  spells hmore := by
    rw [List.append_assoc, List.append_assoc]
    exact hfirst.spells (hsecond.spells hmore)
  joins more := by
    rw [List.append_assoc, hfirst.joins, hsecond.joins, Option.map_map]
    congr 1
    funext s
    exact (List.append_assoc ..).symm

lemma writes_plain {bytes : Bytes} (hbytes : IsPlain bytes) :
    Writes (bytes.map .byte) bytes bytes := by
  induction bytes with
  | nil => exact writes_nil
  | cons b bytes ih =>
    obtain ⟨hcontrol, hquote, hbackslash⟩ := hbytes b List.mem_cons_self
    have hmore := ih fun c hc => hbytes c (List.mem_cons_of_mem _ hc)
    have hfirst : Writes [.byte b] [b] [b] := ⟨.plain hcontrol hquote hbackslash, fun _ => rfl⟩
    exact hfirst.append hmore

lemma writes_escape {letter b : UInt8} (hletter : (letter, b) ∈ escapes) :
    Writes [.byte b] [0x5C, letter] [b] :=
  ⟨.escape hletter, fun _ => rfl⟩

/-- A control is written as its code. -/
lemma writes_control {n : Nat} (hn : n < 32) :
    Writes [.unit n]
      (bytesOf ['\\', 'u', '0', '0', hexDigit (n / 16), hexDigit (n % 16)]) [UInt8.ofNat n] := by
  have hzero : hexValue? 0x30 = some 0 := by decide
  have hdigits : ∃ c d, bytesOf ['\\', 'u', '0', '0', hexDigit (n / 16), hexDigit (n % 16)] =
      [0x5C, 0x75, 0x30, 0x30, c, d] ∧ hexValue? c = some (n / 16) ∧
      hexValue? d = some (n % 16) := by
    interval_cases n <;> exact ⟨_, _, rfl, by decide, by decide⟩
  obtain ⟨c, d, hwritten, hc, hd⟩ := hdigits
  rw [hwritten]
  refine ⟨fun hmore => ?_, fun more => ?_⟩
  · have hspelled := SpellsString.unit hzero hzero hc hd hmore
    have hvalue : 16 * (16 * (16 * 0 + 0) + n / 16) + n % 16 = n := by omega
    rwa [hvalue] at hspelled
  · have hchar : String.utf8EncodeChar (Char.ofNat n) = [UInt8.ofNat n] := by
      have hvalue := Text.toNat_ofNat_of_lt (n := n) (by omega)
      rw [Text.utf8EncodeChar_of_lt (by omega), hvalue]
    rw [List.singleton_append, joinPieces?.eq_def]
    dsimp only
    rw [if_neg (by omega), if_neg (by omega), hchar]

/-- Each character is written so that it is read back. -/
lemma exists_writes_char (char : Char) :
    ∃ pieces, Writes pieces (bytesOf (escapeChar char)) (String.utf8EncodeChar char) := by
  have hcode : char.toNat < 128 → String.utf8EncodeChar char = [UInt8.ofNat char.toNat] :=
    Text.utf8EncodeChar_of_lt
  have hescape : ∀ {letter b : UInt8} {n : Nat}, (letter, b) ∈ escapes → UInt8.ofNat n = b →
      n < 128 → char.toNat = n → Writes [.byte b] [0x5C, letter] (String.utf8EncodeChar char) := by
    rintro letter b n hletter rfl hn rfl
    rw [hcode hn]
    exact writes_escape hletter
  rw [escapeChar]
  split_ifs with hquote hbackslash hbackspace htab hfeed hform hreturn hcontrol
  · exact ⟨[.byte 0x22], hescape (by decide) rfl (by decide) (congrArg Char.toNat hquote)⟩
  · exact ⟨[.byte 0x5C], hescape (by decide) rfl (by decide) (congrArg Char.toNat hbackslash)⟩
  · exact ⟨[.byte 0x08], hescape (by decide) rfl (by decide) hbackspace⟩
  · exact ⟨[.byte 0x09], hescape (by decide) rfl (by decide) htab⟩
  · exact ⟨[.byte 0x0A], hescape (by decide) rfl (by decide) hfeed⟩
  · exact ⟨[.byte 0x0C], hescape (by decide) rfl (by decide) hform⟩
  · exact ⟨[.byte 0x0D], hescape (by decide) rfl (by decide) hreturn⟩
  · rw [hcode (by omega)]
    exact ⟨_, writes_control hcontrol⟩
  · have hplain := isPlain_utf8EncodeChar hquote hbackslash (Nat.le_of_not_lt hcontrol)
    refine ⟨(String.utf8EncodeChar char).map .byte, ?_⟩
    rw [bytesOf, List.flatMap_singleton]
    exact writes_plain hplain

lemma exists_writes (chars : List Char) :
    ∃ pieces, Writes pieces (bytesOf (chars.flatMap escapeChar)) (bytesOf chars) := by
  induction chars with
  | nil => exact ⟨[], writes_nil⟩
  | cons char chars ih =>
    obtain ⟨first, hfirst⟩ := exists_writes_char char
    obtain ⟨more, hmore⟩ := ih
    refine ⟨first ++ more, ?_⟩
    rw [List.flatMap_cons, bytesOf_append]
    exact hfirst.append hmore

/-- A text is written as a string that is read as the text. -/
lemma exists_pieces (text : String) : ∃ pieces s, SpellsString pieces s ∧
    bytesOf (writeString text) = 0x22 :: (s ++ [0x22]) ∧ stringText pieces = some text := by
  obtain ⟨pieces, hpieces⟩ := exists_writes text.toList
  refine ⟨pieces, bytesOf (text.toList.flatMap escapeChar), ?_, ?_, ?_⟩
  · have hspelled := hpieces.spells .nil
    rwa [List.append_nil, List.append_nil] at hspelled
  · rw [writeString, List.cons_append, ← List.singleton_append, bytesOf_append, bytesOf_append]
    rfl
  · have hjoined := hpieces.joins []
    rw [List.append_nil, joinPieces?, Option.map_some, List.append_nil] at hjoined
    rw [stringText, hjoined]
    exact Text.decode?_encode text

/-! ## Numbers -/

/-- The digits of a natural number as bytes. -/
def digitsOf (n : Nat) : Bytes := (writeNat n).map fun c => UInt8.ofNat c.toNat

lemma le_of_mem_writeNat {n : Nat} {c : Char} (hc : c ∈ writeNat n) :
    48 ≤ c.toNat ∧ c.toNat ≤ 57 := by
  have hdigit := Nat.isDigit_of_mem_toDigits (by decide) (by decide) hc
  simp only [Char.isDigit, Bool.and_eq_true, decide_eq_true_eq] at hdigit
  exact hdigit

lemma bytesOf_writeNat (n : Nat) : bytesOf (writeNat n) = digitsOf n := by
  rw [digitsOf, List.map_eq_flatMap, bytesOf]
  refine List.flatMap_congr fun c hc => Text.utf8EncodeChar_of_lt ?_
  have hrange := le_of_mem_writeNat hc
  omega

lemma toNat_ofNat_of_mem {n : Nat} {c : Char} (hc : c ∈ writeNat n) :
    (UInt8.ofNat c.toNat).toNat = c.toNat := by
  have hrange := le_of_mem_writeNat hc
  have hsize : UInt8.size = 256 := rfl
  exact UInt8.toNat_ofNat_of_lt' (by omega)

lemma areDigits_digitsOf (n : Nat) : AreDigits (digitsOf n) where
  filled := by
    rw [digitsOf, Ne, List.map_eq_nil_iff]
    exact Nat.toDigits_ne_nil
  decimal := by
    intro b hb
    obtain ⟨c, hc, rfl⟩ := List.mem_map.mp hb
    have hrange := le_of_mem_writeNat hc
    simp only [isDigit, Bool.and_eq_true, decide_eq_true_eq, UInt8.le_iff_toNat_le,
      toNat_ofNat_of_mem hc]
    exact hrange

/-- The digits of a number denote it. -/
lemma digitsValue_digitsOf (n : Nat) : digitsValue (digitsOf n) = n := by
  have hfold : ∀ chars : List Char, (∀ c ∈ chars, c ∈ writeNat n) → ∀ start,
      (chars.map fun c => UInt8.ofNat c.toNat).foldl (fun n b => n * 10 + (b.toNat - 0x30)) start =
        Nat.ofDigitChars 10 chars start := by
    intro chars
    induction chars with
    | nil => exact fun _ _ => rfl
    | cons c chars ih =>
      intro hchars start
      have hc := toNat_ofNat_of_mem (hchars c List.mem_cons_self)
      rw [List.map_cons, List.foldl_cons, hc, ih fun d hd => hchars d (List.mem_cons_of_mem _ hd),
        Nat.mul_comm]
      rfl
  rw [digitsValue, digitsOf, hfold _ fun _ hc => hc]
  exact Nat.ofDigitChars_ten_toDigits

/-- No zero leads the digits of a positive number. -/
lemma head?_toDigits {n : Nat} (hn : 0 < n) : (Nat.toDigits 10 n).head? ≠ some '0' := by
  induction n using Nat.strongRecOn with
  | ind n ih =>
    by_cases hlt : n < 10
    · rw [Nat.toDigits_of_lt_base hlt]
      interval_cases n <;> decide
    · rw [Nat.toDigits_of_base_le (by omega) (by omega),
        List.head?_append_of_ne_nil _ Nat.toDigits_ne_nil]
      exact ih (n / 10) (by omega) (by omega)

lemma length_digitsOf {n : Nat} (hhead : (digitsOf n).head? = some 0x30) :
    (digitsOf n).length = 1 := by
  rcases Nat.eq_zero_or_pos n with rfl | hn
  · rfl
  · rw [digitsOf, List.head?_map, Option.map_eq_some_iff] at hhead
    obtain ⟨c, hc, hzero⟩ := hhead
    have hvalue := toNat_ofNat_of_mem (List.mem_of_mem_head? hc)
    rw [hzero] at hvalue
    have hchar : c = '0' := Char.toNat_inj.mp hvalue.symm
    rw [hchar] at hc
    exact absurd hc (head?_toDigits hn)

/-- The parts of a whole number as it is written. -/
def numberOf (value : Int) : NumberText := ⟨decide (value < 0), digitsOf value.natAbs, [], none⟩

lemma spellsNumber_numberOf (value : Int) :
    SpellsNumber (numberOf value) (bytesOf (writeInt value)) := by
  have hwritten : bytesOf (writeInt value) =
      (if (numberOf value).negative then [0x2D] else []) ++
        ((numberOf value).whole ++ ([] ++ [])) := by
    cases value with
    | ofNat n =>
      have hsign : (numberOf (.ofNat n)).negative = false :=
        decide_eq_false (Int.not_lt.mpr (Int.natCast_nonneg n))
      rw [hsign, List.append_nil, List.append_nil]
      exact bytesOf_writeNat n
    | negSucc n =>
      have hsign : (numberOf (.negSucc n)).negative = true :=
        decide_eq_true (Int.negSucc_lt_zero n)
      rw [hsign, List.append_nil, List.append_nil]
      exact congrArg (0x2D :: ·) (bytesOf_writeNat (n + 1))
  rw [hwritten]
  exact .mk (areDigits_digitsOf value.natAbs) length_digitsOf .none .none

/-- A whole number that fits a word is written in parts that denote it. -/
lemma denotes_numberOf {value : Int} (hleast : -0x8000000000000000 ≤ value)
    (hgreatest : value < 0x10000000000000000) : (numberOf value).Denotes value where
  plain := ⟨rfl, rfl⟩
  value_eq := by
    simp only [numberOf, decide_eq_true_eq, digitsValue_digitsOf]
    split_ifs <;> omega
  ne_zero := by
    simp only [numberOf, decide_eq_true_eq]
    omega
  least := hleast
  greatest := hgreatest

/-! ## Values -/

lemma bytesOf_writeItems (values : List Value) :
    bytesOf (Value.writeItems values) =
      writeRest 0x5D (values.map fun value => bytesOf value.write) := by
  induction values with
  | nil => rfl
  | cons value values ih =>
    rw [Value.writeItems, bytesOf_append, ih, writeRest, writeRest, List.map_cons,
      List.flatMap_cons, List.append_assoc]
    rfl

lemma bytesOf_write_array (values : List Value) :
    bytesOf (Value.array values).write =
      0x5B :: writeItems 0x5D (values.map fun value => bytesOf value.write) := by
  cases values with
  | nil => rfl
  | cons value values =>
    rw [Value.write, bytesOf_append, bytesOf_writeItems]
    rfl

/-- A member as it is written. -/
def memberBytes (member : String × Value) : Bytes :=
  bytesOf (writeString member.1) ++ 0x3A :: bytesOf member.2.write

lemma bytesOf_member (key : String) (value : Value) (more : List Char) :
    bytesOf (writeString key ++ ':' :: value.write ++ more) =
      memberBytes (key, value) ++ bytesOf more := by
  rw [bytesOf_append, bytesOf_append]
  rfl

lemma bytesOf_writeMembers (members : List (String × Value)) :
    bytesOf (Value.writeMembers members) = writeRest 0x7D (members.map memberBytes) := by
  induction members with
  | nil => rfl
  | cons member members ih =>
    obtain ⟨key, value⟩ := member
    have hmember := bytesOf_member key value (Value.writeMembers members)
    rw [ih] at hmember
    exact (congrArg (0x2C :: ·) hmember).trans (by simp [writeRest])

lemma bytesOf_write_object (members : List (String × Value)) :
    bytesOf (Value.object members).write = 0x7B :: writeItems 0x7D (members.map memberBytes) := by
  cases members with
  | nil => rfl
  | cons member members =>
    obtain ⟨key, value⟩ := member
    have hmember := bytesOf_member key value (Value.writeMembers members)
    rw [bytesOf_writeMembers] at hmember
    exact congrArg (0x7B :: ·) hmember

section

variable {tree : Tree} {value : Value} {depth : Nat} {s : Bytes}

/-- What is written without blanks is a spelling. -/
lemma SpellsCompactly.spells (hs : SpellsCompactly tree s) (hdepth : tree.Within depth) :
    Spells tree s := by
  induction depth generalizing tree s with
  | zero =>
    cases hs with
    | scalar _ hs => exact hs
    | array | object => exact hdepth.elim
  | succ depth ih =>
    cases hs with
    | scalar _ hs => exact hs
    | @array items written hitems =>
      have hspelled : List.Forall₂ Spells items written :=
        forall₂_imp_of_mem hitems fun item hitem _ hs => ih hs (hdepth item hitem)
      exact .array (spellsItems_write hspelled)
    | @object members written hmembers =>
      have hspelled : List.Forall₂ (SpellsMember Spells) members written := by
        refine forall₂_imp_of_mem hmembers fun member hmember _ hs => ?_
        obtain ⟨hkey, hvalue⟩ := hs
        exact .mk hkey areBlanks_nil areBlanks_nil (ih hvalue (hdepth _ hmember))
      exact .object (spellsItems_write hspelled)

/-- A tree says what is written for a value, without brackets beyond a depth. -/
structure IsCompact (depth : Nat) (value : Value) (compact : Tree) : Prop where
  spells : SpellsCompactly compact (bytesOf value.write)
  denotes : Denotes compact value
  within : compact.Within depth

/-- A value without brackets is written as one. -/
lemma Denotes.exists_isCompact_of_isScalar (hdenotes : Denotes tree value)
    (hscalar : tree.IsScalar) (depth : Nat) : ∃ compact, IsCompact depth value compact := by
  have hcompact : ∀ compact : Tree, compact.IsScalar → Spells compact (bytesOf value.write) →
      Denotes compact value → ∃ compact, IsCompact depth value compact := by
    intro compact hscalar hspelled hdenotes
    refine ⟨compact, .scalar hscalar hspelled, hdenotes, ?_⟩
    cases compact with
    | array | object => exact hscalar.elim
    | null | bool | number | string => cases depth <;> trivial
  cases hdenotes with
  | null => exact hcompact .null trivial .null .null
  | bool b =>
    refine hcompact (.bool b) trivial ?_ (.bool b)
    cases b with
    | true => exact .true
    | false => exact .false
  | @number _ value hn =>
    exact hcompact (.number (numberOf value)) trivial (.number (spellsNumber_numberOf value))
      (.number (denotes_numberOf hn.least hn.greatest))
  | @string _ text =>
    obtain ⟨pieces, s, hpieces, hwritten, htext⟩ := exists_pieces text
    refine hcompact (.string pieces) trivial ?_ (.string htext)
    rw [Value.write, hwritten]
    exact .string hpieces
  | array | object => exact hscalar.elim

/-- Items are written between brackets as they are written by themselves. -/
lemma exists_isCompact_array {values : List Value}
    (hitems : ∀ value ∈ values, ∃ item, IsCompact depth value item) :
    ∃ compact, IsCompact (depth + 1) (.array values) compact := by
  obtain ⟨items, hcompact⟩ := exists_forall₂ hitems
  have hspelled : List.Forall₂ SpellsCompactly items
      (values.map fun value => bytesOf value.write) := by
    rw [List.forall₂_map_right_iff]
    exact hcompact.flip.imp fun _ _ hitem => hitem.spells
  refine ⟨.array items, ?_, .array (hcompact.flip.imp fun _ _ hitem => hitem.denotes), ?_⟩
  · rw [bytesOf_write_array]
    exact .array hspelled
  · intro item hitem
    obtain ⟨value, _, hvalue⟩ := exists_mem_of_forall₂ hcompact hitem
    exact hvalue.within

/-- Members whose keys are in order are written between braces with their keys as strings. -/
lemma exists_isCompact_object {members : List (String × Value)}
    (hmembers : Resolves members members)
    (hvalues : ∀ member ∈ members, ∃ tree, IsCompact depth member.2 tree) :
    ∃ compact, IsCompact (depth + 1) (.object members) compact := by
  have hwritten : ∀ member ∈ members, ∃ written : List Piece × Tree,
      SpellsMemberCompactly SpellsCompactly written (memberBytes member) ∧
      MemberDenotes Denotes written member ∧ written.2.Within depth := by
    rintro ⟨key, value⟩ hmember
    obtain ⟨tree, htree⟩ := hvalues _ hmember
    obtain ⟨pieces, s, hpieces, hkey, htext⟩ := exists_pieces key
    have hbytes : memberBytes (key, value) = writeMember s (bytesOf value.write) := by
      simp [memberBytes, hkey, writeMember]
    refine ⟨(pieces, tree), ?_, .mk htext htree.denotes, htree.within⟩
    rw [hbytes]
    exact .mk hpieces htree.spells
  obtain ⟨written, hall⟩ := exists_forall₂ hwritten
  have hspelled : List.Forall₂ (SpellsMemberCompactly SpellsCompactly) written
      (members.map memberBytes) := by
    rw [List.forall₂_map_right_iff]
    exact hall.flip.imp fun _ _ hmember => hmember.1
  refine ⟨.object written, ?_,
    .object (hall.flip.imp fun _ _ hmember => hmember.2.1) hmembers, ?_⟩
  · rw [bytesOf_write_object]
    exact .object hspelled
  · intro member hmember
    obtain ⟨_, _, _, _, hwithin⟩ := exists_mem_of_forall₂ hall hmember
    exact hwithin

/-- A value is written without blanks as a tree that denotes it, whose brackets are nested no
deeper than those of any other tree that does. -/
lemma Denotes.exists_isCompact (hdenotes : Denotes tree value) (hdepth : tree.Within depth) :
    ∃ compact, IsCompact depth value compact := by
  induction depth generalizing tree value with
  | zero =>
    cases tree with
    | array | object => exact hdepth.elim
    | null | bool | number | string => exact hdenotes.exists_isCompact_of_isScalar trivial 0
  | succ depth ih =>
    cases tree with
    | null | bool | number | string =>
      exact hdenotes.exists_isCompact_of_isScalar trivial (depth + 1)
    | array items =>
      cases hdenotes with
      | array hitems =>
        refine exists_isCompact_array fun value hvalue => ?_
        obtain ⟨item, hitem, hdenotes⟩ := exists_mem_of_forall₂ hitems hvalue
        exact ih hdenotes (hdepth item hitem)
    | object members =>
      cases hdenotes with
      | object hmembers hresolved =>
        refine exists_isCompact_object hresolved.again fun member hmember => ?_
        obtain ⟨written, hwritten, hdenotes⟩ :=
          exists_mem_of_forall₂ hmembers (hresolved.subset hmember)
        obtain ⟨-, hvalue⟩ := hdenotes
        exact ih hvalue (hdepth _ hwritten)

/-- **The compact text of a value is read back as the value.** -/
lemma Denotes.readDocument_toText (hdenotes : Denotes tree value) (hdepth : tree.Within depth) :
    readDocument (readValue depth) (Text.encode value.toText) = .ok value := by
  obtain ⟨compact, hcompact⟩ := hdenotes.exists_isCompact hdepth
  have hspelled := hcompact.spells.spells hcompact.within
  have hbody := SpellsDocument.mk areBlanks_nil hspelled areBlanks_nil
  rw [List.nil_append, List.append_nil, ← encode_toText] at hbody
  have hread := readDocument_spells (means_readValue depth) hbody
  rw [hcompact.denotes.value?_eq hcompact.within] at hread
  exact eq_ok_of_toOption hread

end

end AnnotationReview.Json
