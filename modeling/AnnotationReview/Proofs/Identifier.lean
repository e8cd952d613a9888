import AnnotationReview.Proofs.Json.Written
import AnnotationReview.Proofs.Rearrangement

/-!
# The texts of identifiers

The backend may give an identifier or a time as any value but null, and the client keeps a text for
it.  The text is faithful (`identifier_faithful`): it is the content of a string, and of any other
value the JSON text without blanks, from which the value can be read again.  So it depends on what
the value says alone, and two values that are no strings have one text only if they say the same.
A text that is sent back as a string is kept as it is.

Only numbers that are whole are covered.  A key that comes twice in an object counts with its last
value, here as everywhere.
-/

namespace AnnotationReview.Backend

open Json (Tree Value RecordShape Piece stringText AreBlanks Delimited Spells SpellsCompactly
  Denotes)

/-! ## What is taken from a value -/

/-- The fields of a shape that hold identifiers take something from what is written for a value,
whatever blanks stand before it and whatever follows. -/
def Takes {α : Type} (shape : RecordShape α) (s : Bytes) (a : α) : Prop :=
  ∀ field ∈ shape.fields, field.name ∈ identifierNames → ∀ ⦃w rest⦄, AreBlanks w →
    Delimited rest → field.read (w ++ (s ++ rest)) = .ok (a, rest)

/-- The text is taken for an identifier where the value is written: in the answer to a submission,
and in a list of updates unless the value is nested too deep for one. -/
structure TakenFrom (tree : Tree) (s : Bytes) (text : String) : Prop where
  saved : Takes savedShape s (some text)
  listed : tree.Within (nestingLimit - 3) → Takes listedShape s text

/-- The text says what the value is: it is the content of a string, and JSON without blanks for
any other value, from which the value is read again.  A whole number has its digits. -/
structure StandsFor (text : String) (value : Value) : Prop where
  content : ∀ content, value = .string content → text = content
  compact : (∀ content, value ≠ .string content) →
    ∃ tree, SpellsCompactly tree (Text.encode text) ∧ Denotes tree value
  decoded : (∀ content, value ≠ .string content) →
    Json.readDocument (Json.readValue nestingLimit) (Text.encode text) = .ok value
  digits : ∀ n, value = .number (.int n) → text = toString n

variable {tree tree' : Tree} {value value' : Value} {s s' : Bytes} {text text' : String}

lemma eq_ok_of_means {α : Type} {read : Json.Reader α} {meaning : Tree → Option α} {a : α}
    (hread : Json.Means Spells read meaning) (hs : Spells tree s) (hmeaning : meaning tree = some a)
    {w rest : Bytes} (hw : AreBlanks w) (hrest : Delimited rest) :
    read (w ++ (s ++ rest)) = .ok (a, rest) := by
  have hmeans := hread hw hs hrest
  rw [hmeaning] at hmeans
  exact Json.eq_ok_of_toOption hmeans

/-- Where a value is written, the text of the value is taken. -/
lemma takenFrom_of_denotes (hs : Spells tree s) (hdenotes : Denotes tree value)
    (hdepth : tree.Within (nestingLimit - 1)) (htext : value.asIdentifier = some text) :
    TakenFrom tree s text where
  saved := by
    intro field hfield hname w rest hw hrest
    have hmeaning : fieldMeaning field.name tree = some (some text) := by
      rw [fieldMeaning, if_pos hname, Tree.optionalIdentifier?, hdenotes.value?_eq hdepth,
        Option.map_some, htext]
    exact eq_ok_of_means (fieldsMean_savedShape field hfield) hs hmeaning hw hrest
  listed := by
    intro hdepth field hfield hname w rest hw hrest
    have hmeaning : listedFieldMeaning field.name tree = some text := by
      rw [listedFieldMeaning, if_pos hname, Tree.identifier?, hdenotes.value?_eq hdepth,
        Option.bind_some, htext]
    exact eq_ok_of_means (fieldsMean_listedShape field hfield) hs hmeaning hw hrest

/-- One text at most is taken from what is written. -/
lemma TakenFrom.unique (htaken : TakenFrom tree s text) (htaken' : TakenFrom tree' s text') :
    text = text' := by
  have hfield : identifierField "update_id" ∈ savedShape.fields := by simp [savedShape]
  have hname : "update_id" ∈ identifierNames := by decide
  have hread := htaken.saved _ hfield hname Json.areBlanks_nil Json.begins_nil
  have hread' := htaken'.saved _ hfield hname Json.areBlanks_nil Json.begins_nil
  have hsame := Except.ok.inj (hread.symm.trans hread')
  exact Option.some.inj (congrArg Prod.fst hsame)

/-! ## What a text stands for -/

lemma asIdentifier_of_not_string (hnull : value ≠ .null)
    (hstring : ∀ content, value ≠ .string content) : value.asIdentifier = some value.toText := by
  cases value with
  | null => exact absurd rfl hnull
  | string content => exact absurd rfl (hstring content)
  | bool | number | array | object => rfl

/-- A whole number is written in its digits. -/
lemma toText_int (n : Int) : (Value.number (.int n)).toText = toString n := by
  cases n with
  | ofNat n => exact Nat.toString_eq_ofList_toDigits.symm
  | negSucc n =>
    have hdigits : toString (n + 1) = String.ofList (Nat.toDigits 10 (n + 1)) :=
      Nat.toString_eq_ofList_toDigits
    have hsigned : toString (Int.negSucc n) = "-" ++ toString (n + 1) := rfl
    rw [hsigned, hdigits]
    apply String.toList_inj.mp
    simp [Value.toText, Value.write, Json.Number.write, Json.writeInt, Json.writeNat]

/-- The text that is taken for a value stands for it. -/
lemma standsFor_of_denotes (hdenotes : Denotes tree value) (hdepth : tree.Within nestingLimit)
    (htext : value.asIdentifier = some text) : StandsFor text value := by
  have hnull : value ≠ .null := by
    rintro rfl
    cases htext
  have hwritten : (∀ content, value ≠ .string content) → text = value.toText := fun hstring =>
    Option.some.inj (htext.symm.trans (asIdentifier_of_not_string hnull hstring))
  refine ⟨?_, fun hstring => ?_, fun hstring => ?_, ?_⟩
  · rintro content rfl
    exact (Option.some.inj htext).symm
  · obtain ⟨compact, hcompact⟩ := hdenotes.exists_isCompact hdepth
    refine ⟨compact, ?_, hcompact.denotes⟩
    rw [hwritten hstring, Json.encode_toText]
    exact hcompact.spells
  · rw [hwritten hstring]
    exact hdenotes.readDocument_toText hdepth
  · rintro n rfl
    rw [hwritten (by simp), toText_int]

/-- A text stands for one value at most that is no string. -/
lemma StandsFor.unique (hvalue : StandsFor text value) (hvalue' : StandsFor text value')
    (hstring : ∀ content, value ≠ .string content)
    (hstring' : ∀ content, value' ≠ .string content) : value = value' :=
  Except.ok.inj ((hvalue.decoded hstring).symm.trans (hvalue'.decoded hstring'))

lemma not_string_of_denotes (hdenotes : Denotes tree value)
    (hstring : ∀ pieces, tree ≠ .string pieces) (content : String) : value ≠ .string content := by
  rintro rfl
  cases hdenotes
  exact hstring _ rfl

lemma exists_asIdentifier (hdenotes : Denotes tree value) (hnull : tree ≠ .null) :
    ∃ text, value.asIdentifier = some text := by
  cases hdenotes with
  | null => exact absurd rfl hnull
  | bool | number | string | array | object => exact ⟨_, rfl⟩

/-- **The text of an identifier is faithful.**  Let a value that is not null hold no numbers but
whole ones and be nested no deeper than can be read.  However it is written, a text is taken for it
wherever an identifier may stand, and the text stands for what the value denotes: it is the content
of a string and the compact JSON text of any other value, and it is the digits of a number.  The
text in a string is taken as it is.  From another value that is no string the same text is taken
exactly if that value denotes the same, whatever the order of its members, its blanks and its
escapes. -/
theorem identifier_faithful (hs : Spells tree s) (hwhole : tree.IsWhole) (hnull : tree ≠ .null)
    (hdepth : tree.Within (nestingLimit - 1)) :
    ∃ value text, (∀ other, Denotes tree other ↔ other = value) ∧ TakenFrom tree s text ∧
      StandsFor text value ∧
      (∀ {pieces : List Piece} {s' : Bytes}, Spells (.string pieces) s' →
        stringText pieces = some text → TakenFrom (.string pieces) s' text) ∧
      ((∀ pieces, tree ≠ .string pieces) →
        ∀ {tree' : Tree} {s' : Bytes}, Spells tree' s' → tree'.IsWhole → tree' ≠ .null →
          tree'.Within (nestingLimit - 1) → (∀ pieces, tree' ≠ .string pieces) →
          (TakenFrom tree' s' text ↔ Denotes tree' value)) := by
  obtain ⟨value, hdenotes⟩ := hwhole.exists_denotes
  obtain ⟨text, htext⟩ := exists_asIdentifier hdenotes hnull
  have hstands := standsFor_of_denotes hdenotes (hdepth.mono (Nat.sub_le ..)) htext
  refine ⟨value, text, fun other => ⟨fun hother => hother.unique hdenotes hdepth, ?_⟩,
    takenFrom_of_denotes hs hdenotes hdepth htext, hstands, ?_, ?_⟩
  · rintro rfl
    exact hdenotes
  · intro pieces s' hs' hcontent
    exact takenFrom_of_denotes hs' (.string hcontent) trivial rfl
  · intro hstring tree' s' hs' hwhole' hnull' hdepth' hstring'
    constructor
    · intro htaken
      obtain ⟨value', hdenotes'⟩ := hwhole'.exists_denotes
      obtain ⟨text', htext'⟩ := exists_asIdentifier hdenotes' hnull'
      have hsame := htaken.unique (takenFrom_of_denotes hs' hdenotes' hdepth' htext')
      subst hsame
      have hstands' := standsFor_of_denotes hdenotes' (hdepth'.mono (Nat.sub_le ..)) htext'
      rw [hstands.unique hstands' (not_string_of_denotes hdenotes hstring)
        (not_string_of_denotes hdenotes' hstring')]
      exact hdenotes'
    · intro hdenotes'
      exact takenFrom_of_denotes hs' hdenotes' hdepth' htext

/-- An object that has one key twice, and its keys out of order. -/
def unsorted : Tree :=
  .object [(plain "n", .number (Json.numberOf 18446744073709551615)), (plain "a", .array [.null]),
    (plain "n", .number (Json.numberOf (-9223372036854775808)))]

/-- The object as it is written. -/
def unsortedBytes : Bytes :=
  Text.encode "\x7b\"n\":18446744073709551615,\"a\":[null],\"n\":-9223372036854775808\x7d"

/-- The greatest number gives way to the least one, which stands behind it, and the keys are put in
order. -/
theorem unsorted_object_taken : Spells unsorted unsortedBytes ∧ unsorted.IsWhole ∧
    unsorted.Within (nestingLimit - 1) ∧
    TakenFrom unsorted unsortedBytes "\x7b\"a\":[null],\"n\":-9223372036854775808\x7d" := by
  have hnumber : ∀ n : Int, Spells (.number (Json.numberOf n)) (Json.bytesOf (Json.writeInt n)) :=
    fun n => .number (Json.spellsNumber_numberOf n)
  have hplain : Json.IsPlain (Text.encode "n") ∧ Json.IsPlain (Text.encode "a") := by
    decide +kernel
  have hs : Spells unsorted unsortedBytes := by
    have hbytes : unsortedBytes = 0x7B :: Json.writeItems 0x7D
        [Json.writeMember (Text.encode "n") (Json.bytesOf (Json.writeInt 18446744073709551615)),
          Json.writeMember (Text.encode "a") (0x5B :: Json.writeItems 0x5D [Text.encode "null"]),
          Json.writeMember (Text.encode "n")
            (Json.bytesOf (Json.writeInt (-9223372036854775808)))] := by decide +kernel
    have hlist : Spells (.array [.null]) (0x5B :: Json.writeItems 0x5D [Text.encode "null"]) :=
      .array (Json.spellsItems_write (.cons .null .nil))
    rw [hbytes]
    exact .object (Json.spellsItems_write
      (.cons (Json.spellsMember_write hplain.1 (hnumber _))
        (.cons (Json.spellsMember_write hplain.2 hlist)
          (.cons (Json.spellsMember_write hplain.1 (hnumber _)) .nil))))
  have hwhole : unsorted.IsWhole := by
    refine .object ?_ ?_
    · simp only [List.forall_mem_cons]
      exact ⟨⟨"n", by decide +kernel⟩, ⟨"a", by decide +kernel⟩, ⟨"n", by decide +kernel⟩, by simp⟩
    · simp only [List.forall_mem_cons]
      have hlist : Tree.IsWhole (.array [.null]) := .array (by simpa using .null)
      exact ⟨.number (Json.denotes_numberOf (by decide) (by decide)), hlist,
        .number (Json.denotes_numberOf (by decide) (by decide)), by simp⟩
  have hdepth : unsorted.Within (nestingLimit - 1) := by
    simp [unsorted, nestingLimit, Tree.Within]
  obtain ⟨value, text, -, htaken, -⟩ := identifier_faithful hs hwhole (by simp [unsorted]) hdepth
  have hread := htaken.saved (identifierField "update_id") (by simp [savedShape]) (by decide)
    Json.areBlanks_nil Json.begins_nil
  have hsample : (identifierField "update_id").read ([] ++ (unsortedBytes ++ [])) =
      .ok (some "\x7b\"a\":[null],\"n\":-9223372036854775808\x7d", []) := by decide +kernel
  have htext := Except.ok.inj (hread.symm.trans hsample)
  rw [Option.some.inj (congrArg Prod.fst htext)] at htaken
  exact ⟨hs, hwhole, hdepth, htaken⟩

end AnnotationReview.Backend
