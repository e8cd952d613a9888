import AnnotationReview.Json.Record
import AnnotationReview.Proofs.Json.Reader

/-!
# What records mean

The fields that a record gives depend on its tree alone (`means_read`): those of an object are
gathered member by member, those of an array are the values of its items.  Of an object only the
members with known names matter, and not their order: the fields are the same, as far as they can
be looked up, when members are put into another order or when members with other names are added
(`record?_rearranged`).  A key that is no text names nothing, and leaves an object without a
meaning.
-/

namespace AnnotationReview.Json

/-! ## Fields -/

/-- Fields that are the same for whoever looks them up. -/
def SameFields {α : Type} (fields fields' : List (String × α)) : Prop :=
  ∀ name, fields.lookup name = fields'.lookup name

namespace SameFields

variable {α : Type} {fields fields' more : List (String × α)}

lemma any_eq_isSome_lookup (fields : List (String × α)) (name : String) :
    fields.any (·.1 == name) = (fields.lookup name).isSome := by
  rw [Bool.eq_iff_iff, List.lookup_isSome_iff, List.any_eq_true]
  simp only [beq_iff_eq]
  exact exists_congr fun field => and_congr_right fun _ => eq_comm

lemma any_eq (hsame : SameFields fields fields') (name : String) :
    fields.any (·.1 == name) = fields'.any (·.1 == name) := by
  rw [any_eq_isSome_lookup, any_eq_isSome_lookup, hsame]

lemma append (hsame : SameFields fields fields') (more : List (String × α)) :
    SameFields (fields ++ more) (fields' ++ more) := by
  intro name
  rw [List.lookup_append, List.lookup_append, hsame]

/-- Two fields with different names may change places. -/
lemma swap {name name' : String} (hne : name ≠ name') (fields : List (String × α)) (a b : α) :
    SameFields (fields ++ [(name, a)] ++ [(name', b)])
      (fields ++ [(name', b)] ++ [(name, a)]) := by
  intro other
  simp only [List.lookup_append, Option.or_assoc]
  congr 1
  by_cases hname : other = name
  · have hother : (other == name') = false := beq_eq_false_iff_ne.mpr (hname ▸ hne)
    simp [List.lookup_cons, hother]
  · have hother : (other == name) = false := beq_eq_false_iff_ne.mpr hname
    simp [List.lookup_cons, hother]

/-! Records may give no fields at all. -/

lemma rel_refl (x : Option (List (String × α))) : Option.Rel SameFields x x := by
  cases x with
  | none => exact .none
  | some fields => exact .some fun _ => rfl

lemma rel_trans {x y z : Option (List (String × α))} (hxy : Option.Rel SameFields x y)
    (hyz : Option.Rel SameFields y z) : Option.Rel SameFields x z := by
  cases hxy with
  | none => exact hyz
  | some hsame =>
    cases hyz with
    | some hsame' => exact .some fun name => (hsame name).trans (hsame' name)

lemma rel_bind {x y : Option (List (String × α))}
    {f g : List (String × α) → Option (List (String × α))} (hxy : Option.Rel SameFields x y)
    (hfg : ∀ fields fields', SameFields fields fields' →
      Option.Rel SameFields (f fields) (g fields')) :
    Option.Rel SameFields (x.bind f) (y.bind g) := by
  cases hxy with
  | none => exact .none
  | some hsame => exact hfg _ _ hsame

/-- What is decided by the fields is the same. -/
lemma bind_eq {ρ : Type} {x y : Option (List (String × α))} {f : List (String × α) → Option ρ}
    (hxy : Option.Rel SameFields x y)
    (hf : ∀ fields fields', SameFields fields fields' → f fields = f fields') :
    x.bind f = y.bind f := by
  cases hxy with
  | none => rfl
  | some hsame => exact hf _ _ hsame

end SameFields

open SameFields

/-! ## What a record amounts to -/

/-- The key is a text other than these names. -/
def IsOther (names : List String) (key : List Piece) : Prop :=
  ∃ name, stringText key = some name ∧ name ∉ names

/-- The second members are the first in any order, with any number of others among them. -/
def Rearranges (names : List String) (members members' : List (List Piece × Tree)) : Prop :=
  ∃ more, members'.Perm (members ++ more) ∧ ∀ member ∈ more, IsOther names member.1

namespace RecordShape

variable {α : Type} {shape : RecordShape α} {meaning : String → Tree → Option α}
  {done done' : List (String × α)} {member : List Piece × Tree}
  {members members' : List (List Piece × Tree)} {w s rest : Bytes}

/-- The names of the fields. -/
def names (shape : RecordShape α) : List String := shape.fields.map (·.name)

/-- Each field is read as what it means by its name. -/
def FieldsMean (shape : RecordShape α) (meaning : String → Tree → Option α) : Prop :=
  ∀ field ∈ shape.fields, Means Spells field.read (meaning field.name)

/-- The fields after one more; none may come twice. -/
def addField (done : List (String × α)) (name : String) (value? : Option α) :
    Option (List (String × α)) :=
  if done.any (·.1 == name) then none else value?.map fun value => done ++ [(name, value)]

/-- The fields after one more member: a member with another name is passed over. -/
def addMember (shape : RecordShape α) (meaning : String → Tree → Option α)
    (done : List (String × α)) (member : List Piece × Tree) : Option (List (String × α)) :=
  (stringText member.1).bind fun name =>
    if name ∈ shape.names then addField done name (meaning name member.2) else some done

/-- The fields that the items of an array give. -/
def valuesOf (endMayBeMissing : Bool) (meaning : String → Tree → Option α) :
    List (Field α) → List Tree → Option (List (String × α))
  | [], [] => some []
  | [], _ :: _ => none
  | _ :: _, [] => if endMayBeMissing then some [] else none
  | field :: fields, item :: items =>
    (meaning field.name item).bind fun value =>
      (valuesOf endMayBeMissing meaning fields items).map fun more => (field.name, value) :: more

/-- The fields that a record gives. -/
def record? (shape : RecordShape α) (meaning : String → Tree → Option α) :
    Tree → Option (List (String × α))
  | .object members => members.foldlM (shape.addMember meaning) []
  | .array items => valuesOf shape.endMayBeMissing meaning shape.fields items
  | .null | .bool _ | .number _ | .string _ => none

/-! ## Reading an object -/

lemma dropColon_append (hw : AreBlanks w) (s : Bytes) : dropColon (w ++ 0x3A :: s) = .ok s := by
  rw [dropColon, skipBlanks_append_cons hw (by decide)]
  rfl

/-- Whether a name is one of the fields. -/
lemma find?_cases (shape : RecordShape α) (name : String) :
    (name ∉ shape.names ∧ shape.fields.find? (·.name == name) = none) ∨
    ∃ field ∈ shape.fields, field.name = name ∧
      shape.fields.find? (·.name == name) = some field := by
  cases hfind : shape.fields.find? (·.name == name) with
  | none =>
    left
    simpa [names] using hfind
  | some field =>
    have hname := List.find?_some hfind
    exact Or.inr ⟨field, List.mem_of_find?_eq_some hfind, by simpa using hname, rfl⟩

lemma readField_append (hmean : shape.FieldsMean meaning) (hw : AreBlanks w)
    (hs : SpellsMember Spells member s) (hrest : Delimited rest) :
    (shape.readField done (w ++ (s ++ rest))).toOption =
      (shape.addMember meaning done member).map (·, rest) := by
  obtain ⟨hkey, hw', hw'', hvalue⟩ := hs
  simp only [List.append_assoc, List.cons_append, readField,
    skipBlanks_append_cons hw (show isBlank 0x22 = false by decide)]
  rw [toOption_bind, keyMeans_readStringBody hkey, addMember]
  cases stringText _ with
  | none => rfl
  | some name =>
    obtain ⟨hunknown, hfind⟩ | ⟨field, hfield, rfl, hfind⟩ := shape.find?_cases name
    · simp only [Option.map_some, Option.bind_some, hfind, if_neg hunknown]
      rw [dropColon_append hw']
      show (skipValue _ >>= _).toOption = _
      rw [toOption_bind, means_skipValue hw'' hvalue hrest]
      rfl
    · have hknown : field.name ∈ shape.names := List.mem_map_of_mem hfield
      simp only [Option.map_some, Option.bind_some, hfind, if_pos hknown, addField]
      split
      next => rfl
      next =>
        rw [dropColon_append hw']
        show (field.read _ >>= _).toOption = _
        rw [toOption_bind, hmean field hfield hw'' hvalue hrest]
        cases meaning field.name _ <;> rfl

lemma readFields_succ (rounds : Nat) (done : List (String × α)) (s : Bytes) :
    (shape.readFields (rounds + 1) done s).toOption =
      (shape.readField done s).toOption.bind fun (done, s) => match skipBlanks s with
        | [] => none
        | b :: s =>
          if b = 0x7D then some (done, s)
          else if b = 0x2C then (shape.readFields rounds done s).toOption
          else none := by
  rw [readFields, toOption_bind]
  congr 1
  funext ⟨done, s⟩
  dsimp only
  cases skipBlanks s with
  | nil => rfl
  | cons b s =>
    dsimp only
    split
    next heq => rw [if_pos (List.cons.inj heq).1, (List.cons.inj heq).2]; rfl
    next heq =>
      obtain ⟨rfl, rfl⟩ := List.cons.inj heq
      rfl
    next hclosing hcomma =>
      rw [if_neg fun heq => hclosing s (by rw [heq]), if_neg fun heq => hcomma s (by rw [heq])]
      rfl

lemma readFields_append (hmean : shape.FieldsMean meaning) {t : Bytes}
    (ht : SpellsRest (SpellsMember Spells) 0x7D members t) {rounds : Nat} (hw : AreBlanks w)
    (hs : SpellsMember Spells member s) (hrounds : members.length < rounds) (rest : Bytes) :
    (shape.readFields rounds done (w ++ (s ++ (t ++ rest)))).toOption =
      ((member :: members).foldlM (shape.addMember meaning) done).map (·, rest) := by
  have hrest := ht.delimited (Or.inr rfl) rest
  induction ht generalizing member w s rounds done with
  | nil hw' =>
    obtain _ | rounds := rounds
    · cases hrounds
    rw [readFields_succ, readField_append hmean hw hs hrest, List.append_assoc,
      List.singleton_append]
    cases hadd : shape.addMember meaning done member <;>
      simp [hadd, skipBlanks_append_cons hw' (show isBlank 0x7D = false by decide)]
  | @cons next members w' w'' s' t hw' hw'' hnext ht ih =>
    obtain _ | rounds := rounds
    · cases hrounds
    have hmore : ∀ done, (shape.readFields rounds done (w'' ++ (s' ++ (t ++ rest)))).toOption =
        ((next :: members).foldlM (shape.addMember meaning) done).map (·, rest) := fun _ =>
      ih hw'' hnext (Nat.lt_of_succ_lt_succ hrounds) (ht.delimited (Or.inr rfl) rest)
    rw [readFields_succ, readField_append hmean hw hs hrest, List.foldlM_cons]
    cases shape.addMember meaning done member with
    | none => rfl
    | some done' =>
      simp only [List.append_assoc, List.cons_append, Option.map_some, Option.bind_some,
        skipBlanks_append_cons hw' (show isBlank 0x2C = false by decide), hmore]
      rfl

/-! ## Reading an array -/

lemma nextItem_comma (hw : AreBlanks w) (s : Bytes) :
    nextItem false (w ++ 0x2C :: s) = .ok (true, s) := by
  rw [nextItem, skipBlanks_append_cons hw (by decide)]
  rfl

lemma nextItem_closing (isFirst : Bool) (hw : AreBlanks w) (s : Bytes) :
    nextItem isFirst (w ++ 0x5D :: s) = .ok (false, s) := by
  rw [nextItem, skipBlanks_append_cons hw (by decide)]
  rfl

lemma readValues_append {fields : List (Field α)}
    (hmean : ∀ field ∈ fields, Means Spells field.read (meaning field.name))
    (endMayBeMissing : Bool) {items : List Tree} {t : Bytes}
    (ht : SpellsRest Spells 0x5D items t) (rest : Bytes) :
    (readValues endMayBeMissing false fields (t ++ rest)).toOption =
      (valuesOf endMayBeMissing meaning fields items).map (·, rest) := by
  induction ht generalizing fields with
  | nil hw =>
    rw [List.append_assoc, List.singleton_append]
    cases fields with
    | nil =>
      rw [readValues, skipBlanks_append_cons hw (by decide)]
      rfl
    | cons field fields =>
      rw [readValues, nextItem_closing false hw]
      cases endMayBeMissing <;> rfl
  | @cons item items w w' s t hw hw' hitem ht ih =>
    have hrest := ht.delimited (Or.inl rfl) rest
    simp only [List.append_assoc, List.cons_append]
    cases fields with
    | nil =>
      rw [readValues, skipBlanks_append_cons hw (by decide)]
      rfl
    | cons field fields =>
      have hmore := ih fun other hother => hmean other (List.mem_cons_of_mem _ hother)
      rw [readValues, nextItem_comma hw]
      show (field.read _ >>= _).toOption = _
      rw [toOption_bind, hmean field List.mem_cons_self hw' hitem hrest, valuesOf]
      cases meaning field.name item with
      | none => rfl
      | some value =>
        show (readValues _ _ _ _ >>= _).toOption = _
        rw [toOption_bind, hmore]
        cases valuesOf endMayBeMissing meaning fields items <;> rfl

lemma readValues_first {fields : List (Field α)}
    (hmean : ∀ field ∈ fields, Means Spells field.read (meaning field.name))
    (endMayBeMissing : Bool) {items : List Tree} (hs : SpellsItems Spells 0x5D items s)
    (rest : Bytes) :
    (readValues endMayBeMissing true fields (s ++ rest)).toOption =
      (valuesOf endMayBeMissing meaning fields items).map (·, rest) := by
  cases hs with
  | nil hw =>
    rw [List.append_assoc, List.singleton_append]
    cases fields with
    | nil =>
      rw [readValues, skipBlanks_append_cons hw (by decide)]
      rfl
    | cons field fields =>
      rw [readValues, nextItem_closing true hw]
      cases endMayBeMissing <;> rfl
  | @cons item items w s t hw hitem ht =>
    have hlead := skipBlanks_spells hw hitem (t ++ rest)
    obtain ⟨b, more, rfl, -, hb⟩ := starts_spells hitem
    have hclosing : ¬b = 0x5D := fun heq => hb (Or.inl heq)
    rw [List.append_assoc, List.append_assoc]
    cases fields with
    | nil =>
      rw [readValues, hlead, List.cons_append]
      split
      next heq => exact absurd (List.cons.inj heq).1 hclosing
      next => rfl
    | cons field fields =>
      have hnext : nextItem true (w ++ (b :: more ++ (t ++ rest))) =
          .ok (true, b :: more ++ (t ++ rest)) := by
        rw [nextItem, hlead, List.cons_append]
        simp only [if_neg hclosing, if_true]
      have hfirst := hmean field List.mem_cons_self (w := []) areBlanks_nil hitem
        (ht.delimited (Or.inl rfl) rest)
      have hmore := readValues_append
        (fun other hother => hmean other (List.mem_cons_of_mem _ hother)) endMayBeMissing ht rest
      rw [readValues, hnext]
      show (field.read _ >>= _).toOption = _
      rw [toOption_bind, ← List.nil_append (b :: more ++ (t ++ rest)), hfirst, valuesOf]
      cases meaning field.name item with
      | none => rfl
      | some value =>
        show (readValues _ _ _ _ >>= _).toOption = _
        rw [toOption_bind, hmore]
        cases valuesOf endMayBeMissing meaning fields items <;> rfl

/-! ## Reading a record -/

/-- **A record is read as what its fields mean.** -/
lemma means_read (hmean : shape.FieldsMean meaning) :
    Means Spells shape.read (shape.record? meaning) := by
  intro tree w s rest hw hs hrest
  rw [read, skipBlanks_spells hw hs]
  cases hs with
  | null | true | false | string => rfl
  | number hn =>
    obtain ⟨b, more, rfl, hb⟩ := hn.exists_cons
    split
    next heq => exact absurd (List.cons.inj heq).1 (ne_of_beginsNumber hb (by decide))
    next heq => exact absurd (List.cons.inj heq).1 (ne_of_beginsNumber hb (by decide))
    next => rfl
  | array hitems => exact readValues_first hmean shape.endMayBeMissing hitems rest
  | @object members s hmembers =>
    simp only [List.cons_append]
    cases hmembers with
    | nil hw =>
      rw [List.append_assoc, List.singleton_append,
        skipBlanks_append_cons hw (show isBlank 0x7D = false by decide)]
      rfl
    | @cons member members w s t hw hmember ht =>
      have hread : (shape.readFields (s ++ (t ++ rest)).length []
          ([] ++ (s ++ (t ++ rest)))).toOption = _ :=
        readFields_append hmean ht areBlanks_nil hmember
          (by have := ht.length_lt; simp only [List.length_append]; omega) rest
      obtain ⟨b, more, rfl, hblank, hb⟩ := starts_member hmember
      rw [List.append_assoc, List.append_assoc, List.cons_append,
        skipBlanks_append_cons hw hblank]
      split
      next heq => exact absurd (Or.inr (List.cons.inj heq).1) hb
      next => exact hread

/-- What a record amounts to is what its fields amount to. -/
lemma means_readAs {ρ : Type} {ofFields? : List (String × α) → Option ρ}
    (hmean : shape.FieldsMean meaning) :
    Means Spells (shape.readAs ofFields?)
      fun tree => (shape.record? meaning tree).bind ofFields? := by
  intro tree w s rest hw hs hrest
  rw [readAs, toOption_bind, means_read hmean hw hs hrest]
  cases hrecord : shape.record? meaning tree with
  | none => simp [hrecord]
  | some fields =>
    cases hfields : ofFields? fields <;>
      simp [hrecord, hfields, Except.toOption, pure, Except.pure]

/-! ## Order and other names -/

lemma addField_congr (hdone : SameFields done done') (name : String) (value? : Option α) :
    Option.Rel SameFields (addField done name value?) (addField done' name value?) := by
  rw [addField, addField, hdone.any_eq]
  split
  next => exact .none
  next =>
    cases value? with
    | none => exact .none
    | some value => exact .some (hdone.append _)

/-- A field that comes twice is refused wherever it comes. -/
lemma addField_twice (done : List (String × α)) (name : String) (x y : Option α) :
    (addField done name x).bind (addField · name y) = none := by
  rw [addField]
  split
  next => rfl
  next => cases x <;> simp [addField]

lemma addField_swap (done : List (String × α)) (name name' : String) (x y : Option α) :
    Option.Rel SameFields ((addField done name x).bind (addField · name' y))
      ((addField done name' y).bind (addField · name x)) := by
  by_cases hne : name = name'
  · subst hne
    rw [addField_twice, addField_twice]
    exact .none
  · have hother : ∀ a, (done ++ [(name, a)]).any (·.1 == name') = done.any (·.1 == name') := by
      simp [hne]
    have hother' : ∀ b, (done ++ [(name', b)]).any (·.1 == name) = done.any (·.1 == name) := by
      simp [Ne.symm hne]
    simp only [addField]
    cases hname : done.any (·.1 == name) <;> cases hname' : done.any (·.1 == name') <;>
      cases x <;> cases y <;> simp [hname, hname', hother, hother']
    simpa using SameFields.swap hne done _ _

section

variable {name : String}

lemma addMember_of_no_text (hkey : stringText member.1 = none) :
    shape.addMember meaning done member = none := by
  rw [addMember, hkey]
  rfl

lemma addMember_of_known (hkey : stringText member.1 = some name) (hname : name ∈ shape.names) :
    shape.addMember meaning done member = addField done name (meaning name member.2) := by
  rw [addMember, hkey]
  exact if_pos hname

lemma addMember_of_other (hother : IsOther shape.names member.1) :
    shape.addMember meaning done member = some done := by
  obtain ⟨name, hkey, hname⟩ := hother
  rw [addMember, hkey]
  exact if_neg hname

end

/-- A key is no text, or a known name, or another one. -/
lemma key_cases (shape : RecordShape α) (key : List Piece) :
    stringText key = none ∨ (∃ name ∈ shape.names, stringText key = some name) ∨
      IsOther shape.names key := by
  cases hkey : stringText key with
  | none => exact Or.inl rfl
  | some name =>
    by_cases hname : name ∈ shape.names
    · exact Or.inr (Or.inl ⟨name, hname, rfl⟩)
    · exact Or.inr (Or.inr ⟨name, hkey, hname⟩)

lemma addMember_congr (hdone : SameFields done done') (member : List Piece × Tree) :
    Option.Rel SameFields (shape.addMember meaning done member)
      (shape.addMember meaning done' member) := by
  obtain hkey | ⟨name, hname, hkey⟩ | hother := shape.key_cases member.1
  · rw [addMember_of_no_text hkey, addMember_of_no_text hkey]
    exact .none
  · rw [addMember_of_known hkey hname, addMember_of_known hkey hname]
    exact addField_congr hdone name _
  · rw [addMember_of_other hother, addMember_of_other hother]
    exact .some hdone

/-- Two members may change places. -/
lemma addMember_swap (done : List (String × α)) (member member' : List Piece × Tree) :
    Option.Rel SameFields
      ((shape.addMember meaning done member).bind (shape.addMember meaning · member'))
      ((shape.addMember meaning done member').bind (shape.addMember meaning · member)) := by
  obtain hkey | ⟨name, hname, hkey⟩ | hother := shape.key_cases member.1
  · simp only [addMember_of_no_text hkey, Option.bind_none, Option.bind_fun_none]
    exact .none
  · obtain hkey' | ⟨name', hname', hkey'⟩ | hother' := shape.key_cases member'.1
    · simp only [addMember_of_no_text hkey', Option.bind_none, Option.bind_fun_none]
      exact .none
    · simp only [addMember_of_known hkey hname, addMember_of_known hkey' hname']
      exact addField_swap done name name' _ _
    · simp only [addMember_of_other hother', Option.bind_some, Option.bind_fun_some]
      exact rel_refl _
  · simp only [addMember_of_other hother, Option.bind_some, Option.bind_fun_some]
    exact rel_refl _

lemma foldlM_congr (hdone : SameFields done done') (members : List (List Piece × Tree)) :
    Option.Rel SameFields (members.foldlM (shape.addMember meaning) done)
      (members.foldlM (shape.addMember meaning) done') := by
  induction members generalizing done done' with
  | nil => exact .some hdone
  | cons member members ih =>
    rw [List.foldlM_cons, List.foldlM_cons]
    exact rel_bind (addMember_congr hdone member) fun _ _ hmore => ih hmore

lemma foldlM_perm (hperm : members.Perm members') (done : List (String × α)) :
    Option.Rel SameFields (members.foldlM (shape.addMember meaning) done)
      (members'.foldlM (shape.addMember meaning) done) := by
  induction hperm generalizing done with
  | nil => exact rel_refl _
  | cons member _ ih =>
    rw [List.foldlM_cons, List.foldlM_cons]
    cases shape.addMember meaning done member with
    | none => exact .none
    | some done' => exact ih done'
  | swap member member' members =>
    simp only [List.foldlM_cons, ← bind_assoc]
    exact rel_bind (addMember_swap done member' member) fun _ _ hdone => foldlM_congr hdone members
  | trans _ _ ih ih' => exact rel_trans (ih done) (ih' done)

lemma foldlM_others {more : List (List Piece × Tree)}
    (hmore : ∀ member ∈ more, IsOther shape.names member.1) (done : List (String × α)) :
    more.foldlM (shape.addMember meaning) done = some done := by
  induction more with
  | nil => rfl
  | cons member more ih =>
    rw [List.foldlM_cons, addMember_of_other (hmore member List.mem_cons_self)]
    exact ih fun other hother => hmore other (List.mem_cons_of_mem _ hother)

/-- **Of an object neither the order of its members matters nor any other members.** -/
lemma record?_rearranged (hmembers : Rearranges shape.names members members') :
    Option.Rel SameFields (shape.record? meaning (.object members))
      (shape.record? meaning (.object members')) := by
  obtain ⟨more, hperm, hmore⟩ := hmembers
  have hsame : Option.Rel SameFields ((members ++ more).foldlM (shape.addMember meaning) [])
      (members'.foldlM (shape.addMember meaning) []) := foldlM_perm hperm.symm []
  rw [List.foldlM_append] at hsame
  simpa [record?, foldlM_others hmore] using hsame

/-- Of the values of an object only those by known names matter, and of these what they mean. -/
lemma record?_recast
    (hmembers : List.Forall₂ (fun member member' => member.1 = member'.1 ∧
      ∀ name ∈ shape.names, stringText member.1 = some name →
        meaning name member.2 = meaning name member'.2) members members') :
    shape.record? meaning (.object members) = shape.record? meaning (.object members') := by
  simp only [record?]
  generalize ([] : List (String × α)) = done
  induction hmembers generalizing done with
  | nil => rfl
  | @cons member member' members members' hmember _ ih =>
    obtain ⟨hkey, hmeaning⟩ := hmember
    have hadd : shape.addMember meaning done member = shape.addMember meaning done member' := by
      rw [addMember, addMember, ← hkey]
      refine Option.bind_congr fun name hname => ?_
      split
      next hknown => rw [hmeaning name hknown hname]
      next => rfl
    rw [List.foldlM_cons, List.foldlM_cons, hadd]
    exact congrArg _ (funext ih)

end RecordShape

end AnnotationReview.Json
