import AnnotationReview.Proofs.Json.Record
import AnnotationReview.Proofs.Verdict

/-!
# What does not matter in a body

The outcome of a call is decided by what the fields of the body mean: by their known names, not by
their order, the blanks between them or other members among them, and the same holds of the updates
in a list (`rearranged_body_same_outcome`).  This is so whatever the body is missing, holds twice or
holds of another type, and for errors as for answers.

Another member may have any text for its name and any value whatever, also one that could not be
read: a number out of range or a string that is no text.
-/

namespace AnnotationReview.Backend

open Json (Tree RecordShape Means Spells SpellsDocument Rearranges SameFields Piece stringText)

/-! ## What fields mean -/

/-- The names of the fields that hold identifiers. -/
def identifierNames : List String := ["update_id", "submission_time"]

/-- What a field of a document means. -/
def fieldMeaning (name : String) (tree : Tree) : Option (Option String) :=
  if name ∈ identifierNames then tree.optionalIdentifier? (nestingLimit - 1)
  else tree.optionalText?

/-- What a field of an update in a list means. -/
def listedFieldMeaning (name : String) (tree : Tree) : Option String :=
  if name ∈ identifierNames then tree.identifier? (nestingLimit - 3) else tree.text?

/-- The update that an item of a list means. -/
def listedMeaning (tree : Tree) : Option Listed :=
  (listedShape.record? listedFieldMeaning tree).bind Listed.ofFields?

/-- What a field of the answer to a question means. -/
def Query.meaning : (query : Query) → String → Tree → Option query.Content
  | .reject _, name, tree => fieldMeaning name tree
  | .submit _, name, tree => fieldMeaning name tree
  | .statusOf _, name, tree => fieldMeaning name tree
  | .accept _, name, tree => fieldMeaning name tree
  | .retract _, name, tree => fieldMeaning name tree
  | .updatesOf _, _, tree => tree.list? listedMeaning

lemma means_textField {name : String} (hname : name ∉ identifierNames) :
    Means Spells (textField name).read (fieldMeaning name) := by
  have hmeaning : fieldMeaning name = Tree.optionalText? := funext fun _ => if_neg hname
  rw [hmeaning]
  exact Json.means_readOptionalText

lemma means_identifierField {name : String} (hname : name ∈ identifierNames) :
    Means Spells (identifierField name).read (fieldMeaning name) := by
  have hmeaning : fieldMeaning name = Tree.optionalIdentifier? (nestingLimit - 1) :=
    funext fun _ => if_pos hname
  rw [hmeaning]
  exact Json.means_readOptionalIdentifier _

lemma fieldsMean_listedShape : listedShape.FieldsMean listedFieldMeaning := by
  have htext : ∀ name ∉ identifierNames, Means Spells Json.readText (listedFieldMeaning name) := by
    intro name hname
    have hmeaning : listedFieldMeaning name = Tree.text? := funext fun _ => if_neg hname
    rw [hmeaning]
    exact Json.means_readText
  have hidentifier : ∀ name ∈ identifierNames,
      Means Spells (Json.readIdentifier (nestingLimit - 3)) (listedFieldMeaning name) := by
    intro name hname
    have hmeaning : listedFieldMeaning name = Tree.identifier? (nestingLimit - 3) :=
      funext fun _ => if_pos hname
    rw [hmeaning]
    exact Json.means_readIdentifier _
  simp only [RecordShape.FieldsMean, listedShape, List.forall_mem_cons]
  exact ⟨hidentifier _ (by decide), htext _ (by decide), htext _ (by decide),
    hidentifier _ (by decide), htext _ (by decide), htext _ (by decide), by simp⟩

lemma fieldsMean_savedShape : savedShape.FieldsMean fieldMeaning := by
  simp only [RecordShape.FieldsMean, savedShape, List.forall_mem_cons]
  exact ⟨means_textField (by decide), means_identifierField (by decide),
    means_textField (by decide), means_identifierField (by decide), by simp⟩

/-- Every field of an answer is read as what it means. -/
lemma fieldsMean_shape (query : Query) : query.shape.FieldsMean query.meaning := by
  cases query with
  | reject _ | retract _ =>
    simp only [RecordShape.FieldsMean, Query.shape, statusShape, List.forall_mem_cons]
    exact ⟨means_textField (by decide), by simp⟩
  | statusOf _ =>
    simp only [RecordShape.FieldsMean, Query.shape, updateStatusShape, List.forall_mem_cons]
    exact ⟨means_textField (by decide), by simp⟩
  | accept _ =>
    simp only [RecordShape.FieldsMean, Query.shape, acceptedShape, List.forall_mem_cons]
    exact ⟨means_textField (by decide), means_textField (by decide), means_textField (by decide),
      by simp⟩
  | submit _ => exact fieldsMean_savedShape
  | updatesOf _ =>
    simp only [RecordShape.FieldsMean, Query.shape, updatesShape, List.forall_mem_cons]
    exact ⟨Json.means_readList (RecordShape.means_readAs fieldsMean_listedShape), by simp⟩

/-! ## What a body comes to -/

section

variable {query : Query} {body : Bytes} {tree : Tree}

/-- What is concluded from the fields that a record gives, if it gives any. -/
def Query.settleRecord (query : Query) (fields? : Option (List (String × query.Content))) :
    Except Error query.Answer :=
  match fields? with
  | some fields => query.settle fields
  | none => .error .undecodable

/-- A body comes to what is concluded from the record that it spells. -/
lemma decode_spells (hbody : SpellsDocument tree body) :
    query.decode body = query.settleRecord (query.shape.record? query.meaning tree) := by
  have hread := Json.readDocument_spells (RecordShape.means_read (fieldsMean_shape query)) hbody
  rw [decode_eq, readBody, ← hread]
  cases Json.readDocument query.shape.read body <;> rfl

section

variable {texts texts' : List (String × Option String)}

lemma fieldText_congr (hsame : SameFields texts texts') (name : String) :
    fieldText texts name = fieldText texts' name := congrArg Option.join (hsame name)

lemma requireField_congr (hsame : SameFields texts texts') (name : String) :
    requireField query texts name = requireField query texts' name := by
  rw [requireField, requireField, fieldText_congr hsame]

lemma expectSuccess_congr (hsame : SameFields texts texts') :
    expectSuccess query texts = expectSuccess query texts' := by
  rw [expectSuccess, expectSuccess, fieldText_congr hsame]

end

/-- Only what can be looked up counts. -/
lemma settle_congr {fields fields' : List (String × query.Content)}
    (hsame : SameFields fields fields') : query.settle fields = query.settle fields' := by
  cases query with
  | updatesOf _ => exact congrArg (fun listed? => Except.ok (listed?.getD [])) (hsame "update_list")
  | statusOf _ => exact requireField_congr hsame _
  | retract _ => exact expectSuccess_congr hsame
  | reject _ =>
    rw [Query.settle, Query.settle, fieldText_congr hsame, expectSuccess_congr hsame]
  | accept _ =>
    rw [Query.settle, Query.settle, expectSuccess_congr hsame, requireField_congr hsame,
      fieldText_congr hsame]
  | submit _ =>
    rw [Query.settle, Query.settle, expectSuccess_congr hsame]
    simp only [requireField_congr hsame]

lemma settleRecord_congr {x y : Option (List (String × query.Content))}
    (hxy : Option.Rel SameFields x y) : query.settleRecord x = query.settleRecord y := by
  cases hxy with
  | none => rfl
  | some hsame => exact settle_congr hsame

end

/-- All fields of an update are looked up. -/
lemma ofFields?_congr {fields fields' : List (String × String)}
    (hsame : SameFields fields fields') : Listed.ofFields? fields = Listed.ofFields? fields' := by
  simp only [Listed.ofFields?, hsame _]

/-! ## Rearranging a body -/

/-- The second item is the first, or the first with its members rearranged. -/
inductive ItemRearranges : Tree → Tree → Prop where
  | same (item : Tree) : ItemRearranges item item
  | members {members members' : List (List Piece × Tree)}
      (hmembers : Rearranges listedShape.names members members') :
      ItemRearranges (.object members) (.object members')

/-- The second member is the first, or it is a list of updates and these are rearranged. -/
inductive MemberRearranges : List Piece × Tree → List Piece × Tree → Prop where
  | same (member : List Piece × Tree) : MemberRearranges member member
  | items {key : List Piece} {items items' : List Tree} (hkey : stringText key = some "update_list")
      (hitems : List.Forall₂ ItemRearranges items items') :
      MemberRearranges (key, .array items) (key, .array items')

/-- The members of the second body are those of the first, with the updates in a list rearranged,
in any order and with others among them. -/
def BodyRearranges (query : Query) (members members' : List (List Piece × Tree)) : Prop :=
  ∃ between, List.Forall₂ MemberRearranges members between ∧
    Rearranges query.shape.names between members'

/-- An update means the same after its members were rearranged. -/
lemma listedMeaning_rearranged {item item' : Tree} (hitem : ItemRearranges item item') :
    listedMeaning item = listedMeaning item' := by
  cases hitem with
  | same => rfl
  | members hmembers =>
    exact SameFields.bind_eq (RecordShape.record?_rearranged hmembers) fun _ _ => ofFields?_congr

lemma list?_rearranged {items items' : List Tree}
    (hitems : List.Forall₂ ItemRearranges items items') :
    Tree.list? listedMeaning (.array items) = Tree.list? listedMeaning (.array items') := by
  simp only [Tree.list?]
  induction hitems with
  | nil => rfl
  | cons hitem _ ih => rw [List.mapM_cons, List.mapM_cons, listedMeaning_rearranged hitem, ih]

/-- A member means the same after the updates in it were rearranged. -/
lemma meaning_rearranged {query : Query} {member member' : List Piece × Tree}
    (hmember : MemberRearranges member member') :
    member.1 = member'.1 ∧ ∀ name ∈ query.shape.names, stringText member.1 = some name →
      query.meaning name member.2 = query.meaning name member'.2 := by
  cases hmember with
  | same => exact ⟨rfl, fun _ _ _ => rfl⟩
  | @items key items items' hkey hitems =>
    refine ⟨rfl, fun name hname htext => ?_⟩
    obtain rfl : "update_list" = name := Option.some.inj (hkey.symm.trans htext)
    -- only the list of updates knows the name
    cases query with
    | updatesOf _ => exact list?_rearranged hitems
    | reject _ | retract _ => exact absurd hname (by decide : "update_list" ∉ statusShape.names)
    | submit _ => exact absurd hname (by decide : "update_list" ∉ savedShape.names)
    | statusOf _ => exact absurd hname (by decide : "update_list" ∉ updateStatusShape.names)
    | accept _ => exact absurd hname (by decide : "update_list" ∉ acceptedShape.names)

/-- **What does not matter in a body.**  Of a successful response whose body is an object, the call
comes to the same if the members of the object or of any update in its list are put into another
order, if other members are put among them, with any names that are not known there and with any
values, and if the body has other blanks between its lexemes.  It comes to the same error just as
to the same answer, for every endpoint. -/
theorem rearranged_body_same_outcome (client : Client) (link : Link) (call : Call) {status : Nat}
    (hstatus : 200 ≤ status ∧ status ≤ 299) {members members' : List (List Piece × Tree)}
    (hmembers : BodyRearranges call.query members members') {body body' : Bytes}
    (hbody : SpellsDocument (.object members) body)
    (hbody' : SpellsDocument (.object members') body') :
    (exchange client link call (.response status body)).result =
      (exchange client link call (.response status body')).result := by
  obtain ⟨between, hbetween, hrearranged⟩ := hmembers
  have hrecord : call.query.shape.record? call.query.meaning (.object members) =
      call.query.shape.record? call.query.meaning (.object between) :=
    RecordShape.record?_recast (hbetween.imp fun _ _ => meaning_rearranged)
  have hdecode : call.query.decode body = call.query.decode body' := by
    rw [decode_spells hbody, decode_spells hbody', hrecord]
    exact settleRecord_congr (RecordShape.record?_rearranged hrearranged)
  have hconclude : call.query.conclude status body = call.query.conclude status body' := by
    have hsuccess := isSuccess_iff.mpr hstatus
    rw [Query.conclude, Query.conclude, if_pos hsuccess, if_pos hsuccess, hdecode]
  unfold exchange
  cases client.request call with
  | error => rfl
  | ok request =>
    cases link with
    | up => exact hconclude
    | down => rfl

/-! ## Samples -/

/-- The pieces of a text that is written without escapes. -/
def plain (text : String) : List Piece := (Text.encode text).map .byte

/-- Members with texts for their values. -/
def textMembers (fields : List (String × String)) : List (List Piece × Tree) :=
  fields.map fun field => (plain field.1, .string (plain field.2))

/-- The member that holds a list with one update, which has these fields. -/
def listMember (fields : List (String × String)) : List Piece × Tree :=
  (plain "update_list", .array [.object (textMembers fields)])

/-- A text between quotes. -/
def writeText (text : String) : Bytes := 0x22 :: (Text.encode text ++ [0x22])

/-- A record of texts. -/
def writeTexts (fields : List (String × String)) : Bytes :=
  0x7B :: Json.writeItems 0x7D
    (fields.map fun field => Json.writeMember (Text.encode field.1) (writeText field.2))

/-- A body with a list of one update, which has these fields. -/
def writeList (fields : List (String × String)) : Bytes :=
  0x7B :: Json.writeItems 0x7D [Json.writeMember (Text.encode "update_list")
    (0x5B :: Json.writeItems 0x5D [writeTexts fields])]

/-- The fields need no escapes. -/
def ArePlain (fields : List (String × String)) : Prop :=
  ∀ field ∈ fields, Json.IsPlain (Text.encode field.1) ∧ Json.IsPlain (Text.encode field.2)

instance : DecidablePred ArePlain := fun fields => List.decidableBAll _ fields

section

variable {fields : List (String × String)} {tree : Tree} {s : Bytes}

lemma spells_writeText {text : String} (htext : Json.IsPlain (Text.encode text)) :
    Spells (.string (plain text)) (writeText text) :=
  .string (Json.spellsString_plain htext)

lemma spells_writeTexts (hfields : ArePlain fields) :
    Spells (.object (textMembers fields)) (writeTexts fields) := by
  refine .object (Json.spellsItems_write ?_)
  rw [textMembers, List.forall₂_map_left_iff, List.forall₂_map_right_iff, List.forall₂_same]
  intro field hfield
  obtain ⟨hname, htext⟩ := hfields field hfield
  exact Json.spellsMember_write hname (spells_writeText htext)

lemma spells_writeList (hfields : ArePlain fields) :
    Spells (.object [listMember fields]) (writeList fields) := by
  have hlist : Spells (.array [.object (textMembers fields)])
      (0x5B :: Json.writeItems 0x5D [writeTexts fields]) :=
    .array (Json.spellsItems_write (.cons (spells_writeTexts hfields) .nil))
  exact .object (Json.spellsItems_write
    (.cons (Json.spellsMember_write (by decide +kernel) hlist) .nil))

lemma spellsDocument_of_spells (hs : Spells tree s) : SpellsDocument tree s := by
  have hdocument := SpellsDocument.mk Json.areBlanks_nil hs Json.areBlanks_nil
  rwa [List.nil_append, List.append_nil] at hdocument

end

/-- The fields of an update. -/
def listedFields : List (String × String) :=
  [("update_id", "8"), ("annotation_access_code", "annotator"), ("access_code", "judge"),
    ("submission_time", "now"), ("update_str", "ls -a"), ("comment_str", "hidden")]

/-- The same backwards, and a field that is not known. -/
def rearrangedFields : List (String × String) := ("note", "new") :: listedFields.reverse

/-- The update is listed as it is with its fields backwards, a new one among them, and a line feed
behind the body. -/
theorem listed_with_fields_rearranged :
    BodyRearranges (.updatesOf "A1") [listMember listedFields] [listMember rearrangedFields] ∧
    (exchange (.ofUrl "http://backend.test") .up ⟨"judge", .updatesOf "A1"⟩
      (.response 200 (writeList listedFields))).result =
        .ok [⟨"8", "annotator", "judge", "now", "ls -a", "hidden"⟩] ∧
    (exchange (.ofUrl "http://backend.test") .up ⟨"judge", .updatesOf "A1"⟩
      (.response 200 (writeList rearrangedFields ++ [0x0A]))).result =
        .ok [⟨"8", "annotator", "judge", "now", "ls -a", "hidden"⟩] := by
  have hitem : Rearranges listedShape.names (textMembers listedFields)
      (textMembers rearrangedFields) := by
    refine ⟨textMembers [("note", "new")], ?_, ?_⟩
    · have hperm : rearrangedFields.Perm (listedFields ++ [("note", "new")]) :=
        (listedFields.reverse_perm.cons _).trans (List.perm_append_singleton _ _).symm
      rw [textMembers, textMembers, textMembers, ← List.map_append]
      exact hperm.map _
    · intro member hmember
      obtain rfl := List.mem_singleton.mp hmember
      exact ⟨"note", by decide +kernel, by decide⟩
  have hmembers : BodyRearranges (.updatesOf "A1") [listMember listedFields]
      [listMember rearrangedFields] :=
    ⟨[listMember rearrangedFields],
      .cons (.items (by decide +kernel) (.cons (.members hitem) .nil)) .nil, [], by simp, by simp⟩
  have hbody : SpellsDocument (.object [listMember listedFields]) (writeList listedFields) :=
    spellsDocument_of_spells (spells_writeList (by decide +kernel))
  have hbody' : SpellsDocument (.object [listMember rearrangedFields])
      (writeList rearrangedFields ++ [0x0A]) :=
    .mk Json.areBlanks_nil (spells_writeList (by decide +kernel)) (by decide +kernel)
  have hlisted : (exchange (.ofUrl "http://backend.test") .up ⟨"judge", .updatesOf "A1"⟩
      (.response 200 (writeList listedFields))).result =
        .ok [⟨"8", "annotator", "judge", "now", "ls -a", "hidden"⟩] := by decide +kernel
  have hsame := rearranged_body_same_outcome (.ofUrl "http://backend.test") .up
    ⟨"judge", .updatesOf "A1"⟩ (by decide : 200 ≤ 200 ∧ 200 ≤ 299) hmembers hbody hbody'
  exact ⟨hmembers, hlisted, hsame ▸ hlisted⟩

end AnnotationReview.Backend
