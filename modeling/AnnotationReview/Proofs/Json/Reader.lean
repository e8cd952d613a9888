import AnnotationReview.Json.Reader
import AnnotationReview.Proofs.Json.Lexeme

/-!
# What readers make of a value

What a reader makes of a value depends on its tree alone: not on the way it is written, nor on
what follows (`Means`).  A reader for the items of a bracket inherits this from the reader of an
item, whatever blanks there are between them.
-/

namespace AnnotationReview.Json

section

variable {α β : Type} {x : Except Fault α}

lemma toOption_bind (x : Except Fault α) (f : α → Except Fault β) :
    (x >>= f).toOption = x.toOption.bind fun a => (f a).toOption := by
  cases x <;> rfl

lemma eq_ok_of_toOption {a : α} (hx : x.toOption = some a) : x = .ok a := by
  cases x with
  | error => cases hx
  | ok => cases hx; rfl

end

section

variable {τ α κ : Type} {spells spells' : τ → Bytes → Prop} {item : Reader α}
  {meaning : τ → Option α} {closing : UInt8} {x : τ} {xs : List τ} {w s t rest : Bytes}

/-- A reader takes whatever is written for a tree as the meaning of the tree, and leaves the
rest. -/
def Means (spells : τ → Bytes → Prop) (reader : Reader α) (meaning : τ → Option α) : Prop :=
  ∀ ⦃x w s rest⦄, AreBlanks w → spells x s → Delimited rest →
    (reader (w ++ (s ++ rest))).toOption = (meaning x).map (·, rest)

/-- A reader takes whatever is written for a key, up to its quote, as the meaning of the key. -/
def KeyMeans (key : Reader κ) (meaning : List Piece → Option κ) : Prop :=
  ∀ ⦃pieces s rest⦄, SpellsString pieces s →
    (key (s ++ 0x22 :: rest)).toOption = (meaning pieces).map (·, rest)

lemma keyMeans_readStringBody : KeyMeans readStringBody stringText := by
  intro pieces s rest hs
  rw [readStringBody, scanPieces_append hs]
  dsimp only [bind, Except.bind]
  cases stringText pieces <;> rfl

lemma keyMeans_skipStringBody : KeyMeans skipStringBody fun _ => some () := by
  intro pieces s rest hs
  rw [skipStringBody, scanPieces_append hs]
  rfl

/-! ## Brackets -/

/-- The byte ends an array or an object. -/
def IsClosing (b : UInt8) : Prop := b = 0x5D ∨ b = 0x7D

instance : DecidablePred IsClosing := fun _ => inferInstanceAs (Decidable (_ ∨ _))

lemma IsClosing.isBlank_eq (hclosing : IsClosing closing) : isBlank closing = false := by
  rcases hclosing with rfl | rfl <;> decide

/-- What is written begins with a byte that is neither a blank nor a closing bracket. -/
def Starts (spells : τ → Bytes → Prop) : Prop :=
  ∀ ⦃x s⦄, spells x s → ∃ b more, s = b :: more ∧ isBlank b = false ∧ ¬IsClosing b

lemma SpellsRest.delimited (hclosing : IsClosing closing) (ht : SpellsRest spells closing xs t)
    (rest : Bytes) : Delimited (t ++ rest) := by
  cases ht with
  | nil hw =>
    rw [List.append_assoc]
    refine delimited_blanks_append hw ?_
    rintro _ ⟨⟩
    rcases hclosing with rfl | rfl
    · exact Or.inr (Or.inr (Or.inl rfl))
    · exact Or.inr (Or.inr (Or.inr rfl))
  | cons hw =>
    rw [List.append_assoc]
    refine delimited_blanks_append hw ?_
    rintro _ ⟨⟩
    exact Or.inr (Or.inl rfl)

lemma SpellsRest.length_lt (ht : SpellsRest spells closing xs t) : xs.length < t.length := by
  induction ht with
  | nil => simp
  | cons _ _ _ _ ih => simp only [List.length_append, List.length_cons]; omega

/-- One round of a sequence. -/
lemma readSequence_succ (rounds : Nat) (s : Bytes) :
    (readSequence closing item (rounds + 1) s).toOption =
      (item s).toOption.bind fun (y, s) => match skipBlanks s with
        | [] => none
        | b :: s =>
          if b = closing then some ([y], s)
          else if b = 0x2C then
            (readSequence closing item rounds s).toOption.map fun (ys, s) => (y :: ys, s)
          else none := by
  rw [readSequence, toOption_bind]
  congr 1
  funext ⟨y, s⟩
  dsimp only
  cases skipBlanks s with
  | nil => rfl
  | cons b s =>
    dsimp only
    split
    next => rfl
    next =>
      split
      next => cases readSequence closing item rounds s <;> rfl
      next => rfl

lemma readSequence_append (hitem : Means spells item meaning) (hclosing : IsClosing closing)
    (ht : SpellsRest spells closing xs t) {rounds : Nat} (hw : AreBlanks w) (hx : spells x s)
    (hrounds : xs.length < rounds) (rest : Bytes) :
    (readSequence closing item rounds (w ++ (s ++ (t ++ rest)))).toOption =
      ((x :: xs).mapM meaning).map (·, rest) := by
  have hrest := ht.delimited hclosing rest
  induction ht generalizing x w s rounds with
  | nil hw' =>
    obtain _ | rounds := rounds
    · cases hrounds
    rw [readSequence_succ, hitem hw hx hrest, List.append_assoc, List.singleton_append]
    cases hmeaning : meaning x <;>
      simp [hmeaning, skipBlanks_append_cons hw' hclosing.isBlank_eq]
  | @cons y ys w' w'' s' t hw' hw'' hy ht ih =>
    obtain _ | rounds := rounds
    · cases hrounds
    have hcomma : ¬(0x2C : UInt8) = closing := by rcases hclosing with rfl | rfl <;> decide
    have hmore := ih hw'' hy (Nat.lt_of_succ_lt_succ hrounds) (ht.delimited hclosing rest)
    rw [readSequence_succ, hitem hw hx hrest]
    simp only [List.append_assoc, List.cons_append]
    cases hmeaning : meaning x with
    | none => simp [hmeaning]
    | some z =>
      simp only [Option.map_some, Option.bind_some, if_neg hcomma, if_true, hmore,
        skipBlanks_append_cons hw' (show isBlank 0x2C = false by decide)]
      rw [List.mapM_cons (a := x), hmeaning]
      cases (y :: ys).mapM meaning <;> rfl

/-- Items are read in their order, up to the closing bracket. -/
lemma readBracketed_append (hitem : Means spells item meaning) (hstarts : Starts spells)
    (hclosing : IsClosing closing) (hs : SpellsItems spells closing xs s) (rest : Bytes) :
    (readBracketed closing item (s ++ rest)).toOption = (xs.mapM meaning).map (·, rest) := by
  cases hs with
  | nil hw =>
    rw [readBracketed, List.append_assoc, List.singleton_append,
      skipBlanks_append_cons hw hclosing.isBlank_eq]
    simp [Except.toOption]
  | @cons x xs w s t hw hx ht =>
    obtain ⟨b, more, rfl, hblank, hb⟩ := hstarts hx
    have hne : ¬b = closing := by
      rintro rfl
      exact hb hclosing
    rw [readBracketed, List.append_assoc, List.append_assoc, List.cons_append,
      skipBlanks_append_cons hw hblank]
    simp only [if_neg hne]
    have hlong := ht.length_lt
    exact readSequence_append hitem hclosing ht (w := []) areBlanks_nil hx
      (by simp only [List.length_cons, List.length_append]; omega) rest

/-! ## Members -/

lemma starts_member : Starts (SpellsMember spells) := by
  rintro _ _ ⟨⟩
  exact ⟨_, _, rfl, by decide, by decide⟩

/-- What a member means by the meanings of its key and of its value. -/
def memberMeaning (keyMeaning : List Piece → Option κ) (meaning : τ → Option α)
    (member : List Piece × τ) : Option (κ × α) :=
  (keyMeaning member.1).bind fun k => (meaning member.2).map (k, ·)

/-- A member is read as its key and its value. -/
lemma means_readMember {key : Reader κ} {keyMeaning : List Piece → Option κ}
    (hkey : KeyMeans key keyMeaning) (hvalue : Means spells item meaning) :
    Means (SpellsMember spells) (readMember key fun _ => item)
      (memberMeaning keyMeaning meaning) := by
  rintro _ w _ rest hw ⟨hpieces, hw', hw'', hx⟩ hrest
  simp only [List.append_assoc, List.cons_append, readMember,
    skipBlanks_append_cons hw (show isBlank 0x22 = false by decide)]
  rw [toOption_bind, hkey hpieces, memberMeaning]
  cases keyMeaning _ with
  | none => rfl
  | some k =>
    simp only [Option.map_some, Option.bind_some,
      skipBlanks_append_cons hw' (show isBlank 0x3A = false by decide)]
    rw [toOption_bind, hvalue hw'' hx hrest]
    cases meaning _ <;> rfl

/-! ## Bounds -/

/-- What is written between brackets is written within them. -/
lemma SpellsItems.mono_of_length {n : Nat}
    (hspells : ∀ ⦃x s⦄, spells x s → s.length ≤ n → spells' x s)
    (hs : SpellsItems spells closing xs s) (hn : s.length ≤ n) :
    SpellsItems spells' closing xs s := by
  have hmore : ∀ {ys t}, SpellsRest spells closing ys t → t.length ≤ n →
      SpellsRest spells' closing ys t := by
    intro ys t ht
    induction ht with
    | nil hw => exact fun _ => .nil hw
    | cons hw hw' hx _ ih =>
      intro hlength
      simp only [List.length_append, List.length_cons] at hlength
      exact .cons hw hw' (hspells hx (by omega)) (ih (by omega))
  cases hs with
  | nil hw => exact .nil hw
  | cons hw hx ht =>
    simp only [List.length_append] at hn
    exact .cons hw (hspells hx (by omega)) (hmore ht (by omega))

lemma SpellsMember.mono_of_length {n : Nat} {member : List Piece × τ}
    (hspells : ∀ ⦃x s⦄, spells x s → s.length ≤ n → spells' x s)
    (hs : SpellsMember spells member s) (hn : s.length ≤ n) :
    SpellsMember spells' member s := by
  obtain ⟨hkey, hw, hw', hvalue⟩ := hs
  simp only [List.length_append, List.length_cons] at hn
  exact .mk hkey hw hw' (hspells hvalue (by omega))

end

/-! ## Values -/

variable {tree : Tree} {w s rest : Bytes}

/-- The first byte of a number is none of the signs that begin another value or end one. -/
lemma ne_of_beginsNumber {b c : UInt8} (hb : b = 0x2D ∨ isDigit b = true)
    (hc : isDigit c = false ∧ c ≠ 0x2D) : b ≠ c := by
  rintro rfl
  rcases hb with rfl | hb
  · exact hc.2 rfl
  · rw [hb] at hc
    cases hc.1

/-- Every value begins with a lexeme of its own. -/
lemma starts_spells : Starts Spells := by
  intro tree s hs
  cases hs with
  | number hn =>
    obtain ⟨b, more, rfl, hb⟩ := hn.exists_cons
    refine ⟨b, more, rfl, ?_, ?_⟩
    · simp [isBlank, ne_of_beginsNumber hb (c := 0x20) (by decide),
        ne_of_beginsNumber hb (c := 0x0A) (by decide),
        ne_of_beginsNumber hb (c := 0x09) (by decide),
        ne_of_beginsNumber hb (c := 0x0D) (by decide)]
    · rintro (rfl | rfl)
      · exact ne_of_beginsNumber hb (by decide) rfl
      · exact ne_of_beginsNumber hb (by decide) rfl
  | null => exact ⟨_, _, rfl, by decide, by decide⟩
  | true => exact ⟨_, _, rfl, by decide, by decide⟩
  | false => exact ⟨_, _, rfl, by decide, by decide⟩
  | string => exact ⟨_, _, rfl, by decide, by decide⟩
  | array => exact ⟨_, _, rfl, by decide, by decide⟩
  | object => exact ⟨_, _, rfl, by decide, by decide⟩

/-- Blanks before a value are passed over. -/
lemma skipBlanks_spells (hw : AreBlanks w) (hs : Spells tree s) (rest : Bytes) :
    skipBlanks (w ++ (s ++ rest)) = s ++ rest := by
  obtain ⟨b, more, rfl, hblank, -⟩ := starts_spells hs
  rw [List.cons_append, skipBlanks_append_cons hw hblank]

namespace Tree

/-- The value has no brackets. -/
def IsScalar : Tree → Prop
  | .array _ | .object _ => False
  | .null | .bool _ | .number _ | .string _ => True

/-- The value that a tree amounts to, with at most `depth` brackets around any part of it. -/
def value? : Nat → Tree → Option Value
  | _, .null => some .null
  | _, .bool b => some (.bool b)
  | _, .number n => n.value?.map .number
  | _, .string pieces => (stringText pieces).map .string
  | 0, .array _ | 0, .object _ => none
  | depth + 1, .array items => (items.mapM (value? depth)).map .array
  | depth + 1, .object members =>
    (members.mapM (memberMeaning stringText (value? depth))).map fun members =>
      .object (sortMembers members)

section

variable {depth : Nat}

@[simp] lemma value?_null : value? depth .null = some .null := by cases depth <;> rfl

@[simp] lemma value?_bool {b : Bool} : value? depth (.bool b) = some (.bool b) := by
  cases depth <;> rfl

@[simp] lemma value?_number {n : NumberText} :
    value? depth (.number n) = n.value?.map .number := by
  cases depth <;> rfl

@[simp] lemma value?_string {pieces : List Piece} :
    value? depth (.string pieces) = (stringText pieces).map .string := by
  cases depth <;> rfl

end

end Tree

/-- A value has no brackets, or it is an array or an object. -/
lemma Spells.cases_brackets (hs : Spells tree s) :
    (tree.IsScalar ∧ ∃ b more, s = b :: more ∧ ¬(b = 0x5B ∨ b = 0x7B)) ∨
    (∃ items t, tree = .array items ∧ s = 0x5B :: t ∧ SpellsItems Spells 0x5D items t) ∨
    (∃ members t, tree = .object members ∧ s = 0x7B :: t ∧
      SpellsItems (SpellsMember Spells) 0x7D members t) := by
  cases hs with
  | array hitems => exact Or.inr (Or.inl ⟨_, _, rfl, rfl, hitems⟩)
  | object hmembers => exact Or.inr (Or.inr ⟨_, _, rfl, rfl, hmembers⟩)
  | null => exact Or.inl ⟨trivial, _, _, rfl, by decide⟩
  | true => exact Or.inl ⟨trivial, _, _, rfl, by decide⟩
  | false => exact Or.inl ⟨trivial, _, _, rfl, by decide⟩
  | string => exact Or.inl ⟨trivial, _, _, rfl, by decide⟩
  | number hn =>
    obtain ⟨b, more, rfl, hb⟩ := hn.exists_cons
    exact Or.inl ⟨trivial, b, more, rfl, not_or.mpr
      ⟨ne_of_beginsNumber hb (by decide), ne_of_beginsNumber hb (by decide)⟩⟩

/-- A value without brackets is read as what it amounts to. -/
lemma readScalar_append (hs : Spells tree s) (hscalar : tree.IsScalar) (hrest : Delimited rest)
    (depth : Nat) : (readScalar (s ++ rest)).toOption = (tree.value? depth).map (·, rest) := by
  cases hs with
  | array => exact hscalar.elim
  | object => exact hscalar.elim
  | null => rw [Tree.value?_null]; rfl
  | true => rw [Tree.value?_bool]; rfl
  | false => rw [Tree.value?_bool]; rfl
  | @number n s hn =>
    have hread := scanNumber_append hn hrest
    obtain ⟨b, more, rfl, hb⟩ := hn.exists_cons
    have hvalue : (readNumber (b :: more ++ rest)).toOption = n.value?.map (·, rest) := by
      rw [readNumber, hread]
      dsimp only [bind, Except.bind]
      cases n.value? <;> rfl
    rw [List.cons_append] at hvalue ⊢
    rw [readScalar]
    simp only [if_neg (ne_of_beginsNumber hb (c := 0x22) (by decide)), if_pos hb]
    rw [toOption_bind, hvalue, Tree.value?_number]
    cases n.value? <;> rfl
  | @string pieces s hpieces =>
    show (readScalar (0x22 :: (s ++ [0x22] ++ rest))).toOption = _
    rw [readScalar, List.append_assoc, List.singleton_append]
    simp only [if_true]
    rw [toOption_bind, keyMeans_readStringBody hpieces, Tree.value?_string]
    cases stringText pieces <;> rfl

section

variable {b : UInt8} {depth : Nat} {more : Bytes}

lemma readValue_of_scalar (hlead : skipBlanks s = b :: more) (hb : ¬(b = 0x5B ∨ b = 0x7B)) :
    readValue depth s = readScalar (b :: more) := by
  rw [readValue.eq_def, hlead]
  cases depth <;> exact if_neg hb

lemma readValue_too_deep (hlead : skipBlanks s = b :: more) (hb : b = 0x5B ∨ b = 0x7B) :
    readValue 0 s = .error .malformed := by
  rw [readValue.eq_def, hlead]
  exact if_pos hb

lemma readValue_array (hlead : skipBlanks s = 0x5B :: more) :
    readValue (depth + 1) s = (do
      let (items, s) ← readItems (readValue depth) more
      return (.array items, s)) := by
  rw [readValue.eq_def, hlead]
  rfl

lemma readValue_object (hlead : skipBlanks s = 0x7B :: more) :
    readValue (depth + 1) s = (do
      let (members, s) ← readMembers readStringBody (readValue depth) more
      return (.object (sortMembers members), s)) := by
  rw [readValue.eq_def, hlead]
  rfl

end

/-- A value is read as what it amounts to. -/
lemma means_readValue (depth : Nat) : Means Spells (readValue depth) (Tree.value? depth) := by
  induction depth with
  | zero =>
    intro tree w s rest hw hs hrest
    have hlead := skipBlanks_spells hw hs rest
    obtain ⟨hscalar, b, more, rfl, hb⟩ | ⟨items, t, rfl, rfl, -⟩ | ⟨members, t, rfl, rfl, -⟩ :=
      hs.cases_brackets
    · rw [readValue_of_scalar hlead hb]
      exact readScalar_append hs hscalar hrest 0
    · rw [readValue_too_deep hlead (Or.inl rfl)]
      rfl
    · rw [readValue_too_deep hlead (Or.inr rfl)]
      rfl
  | succ depth ih =>
    intro tree w s rest hw hs hrest
    have hlead := skipBlanks_spells hw hs rest
    obtain ⟨hscalar, b, more, rfl, hb⟩ | ⟨items, t, rfl, rfl, hitems⟩ |
      ⟨members, t, rfl, rfl, hmembers⟩ := hs.cases_brackets
    · rw [readValue_of_scalar hlead hb]
      exact readScalar_append hs hscalar hrest (depth + 1)
    · have hread := readBracketed_append ih starts_spells (Or.inl rfl) hitems rest
      rw [List.cons_append] at hlead ⊢
      rw [readValue_array hlead, toOption_bind, readItems, hread, Tree.value?]
      cases items.mapM (Tree.value? depth) <;> rfl
    · have hread := readBracketed_append (means_readMember keyMeans_readStringBody ih)
        starts_member (Or.inr rfl) hmembers rest
      rw [List.cons_append] at hlead ⊢
      rw [readValue_object hlead, toOption_bind, readMembers, hread, Tree.value?]
      cases members.mapM (memberMeaning stringText (Tree.value? depth)) <;> rfl

/-! ## Values that are passed over -/

/-- Passes over a value without brackets. -/
def skipScalar : Reader Unit := fun s =>
  match s with
  | [] => .error .malformed
  | b :: rest =>
    if b = 0x22 then skipStringBody rest
    else if b = 0x2D ∨ isDigit b then do
      let (_, s) ← scanNumber (b :: rest)
      return ((), s)
    else do
      let (_, s) ← readScalar (b :: rest)
      return ((), s)

/-- Every value without brackets is passed over, also a number out of range and a string that is
no text. -/
lemma skipScalar_append (hs : Spells tree s) (hscalar : tree.IsScalar) (hrest : Delimited rest) :
    skipScalar (s ++ rest) = .ok ((), rest) := by
  cases hs with
  | array => exact hscalar.elim
  | object => exact hscalar.elim
  | null => rfl
  | true => rfl
  | false => rfl
  | @number n s hn =>
    have hread := scanNumber_append hn hrest
    obtain ⟨b, more, rfl, hb⟩ := hn.exists_cons
    rw [List.cons_append] at hread ⊢
    simp only [skipScalar, if_neg (ne_of_beginsNumber hb (c := 0x22) (by decide)), if_pos hb, hread]
    rfl
  | @string pieces s hpieces =>
    have hskip : skipStringBody (s ++ 0x22 :: rest) = .ok ((), rest) :=
      eq_ok_of_toOption (keyMeans_skipStringBody hpieces)
    simpa [skipScalar] using hskip

section

variable {b : UInt8} {depth : Nat} {more : Bytes}

lemma skipNested_of_scalar (hlead : skipBlanks s = b :: more) (hb : ¬(b = 0x5B ∨ b = 0x7B)) :
    skipNested depth s = skipScalar (b :: more) := by
  rw [skipNested.eq_def, hlead]
  cases depth <;> exact if_neg hb

lemma skipNested_array (hlead : skipBlanks s = 0x5B :: more) :
    skipNested (depth + 1) s = (do
      let (_, s) ← readItems (skipNested depth) more
      return ((), s)) := by
  rw [skipNested.eq_def, hlead]
  rfl

lemma skipNested_object (hlead : skipBlanks s = 0x7B :: more) :
    skipNested (depth + 1) s = (do
      let (_, s) ← readMembers skipStringBody (skipNested depth) more
      return ((), s)) := by
  rw [skipNested.eq_def, hlead]
  rfl

end

/-- Items that are all passed over. -/
lemma exists_mapM {τ α : Type} (meaning : τ → Option α) (hall : ∀ x, ∃ y, meaning x = some y)
    (xs : List τ) : ∃ ys, xs.mapM meaning = some ys := by
  induction xs with
  | nil => exact ⟨[], rfl⟩
  | cons x xs ih =>
    obtain ⟨y, hy⟩ := hall x
    obtain ⟨ys, hys⟩ := ih
    exact ⟨y :: ys, by simp [hy, hys]⟩

/-- A value is passed over if the depth is not less than its length: each bracket takes a byte. -/
lemma means_skipNested (depth : Nat) :
    Means (fun tree s => Spells tree s ∧ s.length ≤ depth) (skipNested depth)
      fun _ => some () := by
  induction depth with
  | zero =>
    rintro tree w s rest hw ⟨hs, hlength⟩ hrest
    obtain ⟨b, more, rfl, -⟩ := starts_spells hs
    cases hlength
  | succ depth ih =>
    rintro tree w s rest hw ⟨hs, hlength⟩ hrest
    have hlead := skipBlanks_spells hw hs rest
    have hwithin : ∀ ⦃x t⦄, Spells x t → t.length ≤ depth → Spells x t ∧ t.length ≤ depth :=
      fun _ _ hx hn => ⟨hx, hn⟩
    obtain ⟨hscalar, b, more, rfl, hb⟩ | ⟨items, t, rfl, rfl, hitems⟩ |
      ⟨members, t, rfl, rfl, hmembers⟩ := hs.cases_brackets
    · rw [skipNested_of_scalar hlead hb]
      exact congrArg Except.toOption (skipScalar_append hs hscalar hrest)
    · have hread := readBracketed_append ih (fun _ _ hx => starts_spells hx.1) (Or.inl rfl)
        (hitems.mono_of_length hwithin (Nat.le_of_succ_le_succ hlength)) rest
      obtain ⟨units, hunits⟩ := exists_mapM (fun _ => some ()) (fun _ => ⟨_, rfl⟩) items
      rw [List.cons_append] at hlead ⊢
      rw [skipNested_array hlead, toOption_bind, readItems, hread, hunits]
      rfl
    · have hread := readBracketed_append (means_readMember keyMeans_skipStringBody ih)
        starts_member (Or.inr rfl)
        (hmembers.mono_of_length (fun _ _ hx hn => hx.mono_of_length hwithin hn)
          (Nat.le_of_succ_le_succ hlength)) rest
      obtain ⟨units, hunits⟩ := exists_mapM (memberMeaning (fun _ => some ()) fun _ => some ())
        (fun _ => ⟨_, rfl⟩) members
      rw [List.cons_append] at hlead ⊢
      rw [skipNested_object hlead, toOption_bind, readMembers, hread, hunits]
      rfl

/-- **Every value is passed over**, however large it is and however deep it is nested. -/
lemma means_skipValue : Means Spells skipValue fun _ => some () := by
  intro tree w s rest hw hs hrest
  refine means_skipNested _ hw ⟨hs, ?_⟩ hrest
  simp only [List.length_append]
  omega

/-! ## Values of one type -/

namespace Tree

/-- The text of a string. -/
def text? : Tree → Option String
  | .string pieces => stringText pieces
  | .null | .bool _ | .number _ | .array _ | .object _ => none

/-- The text of a string, and none for null. -/
def optionalText? : Tree → Option (Option String)
  | .null => some none
  | tree => tree.text?.map some

/-- The text that a value is taken for as an identifier. -/
def identifier? (depth : Nat) (tree : Tree) : Option String :=
  (tree.value? depth).bind Value.asIdentifier

/-- The same, and none for null. -/
def optionalIdentifier? (depth : Nat) (tree : Tree) : Option (Option String) :=
  (tree.value? depth).map Value.asIdentifier

/-- The items of an array by the meaning of an item. -/
def list? {α : Type} (meaning : Tree → Option α) : Tree → Option (List α)
  | .array items => items.mapM meaning
  | .null | .bool _ | .number _ | .string _ | .object _ => none

end Tree

lemma means_readText : Means Spells readText Tree.text? := by
  intro tree w s rest hw hs hrest
  rw [readText, skipBlanks_spells hw hs]
  cases hs with
  | null | true | false | array | object => rfl
  | number hn =>
    obtain ⟨b, more, rfl, hb⟩ := hn.exists_cons
    split
    next heq => exact absurd (List.cons.inj heq).1 (ne_of_beginsNumber hb (by decide))
    next => rfl
  | @string pieces s hpieces =>
    rw [List.cons_append, List.append_assoc]
    exact keyMeans_readStringBody hpieces

lemma means_readOptionalText : Means Spells readOptionalText Tree.optionalText? := by
  intro tree w s rest hw hs hrest
  have htext : (readText (s ++ rest) >>= fun (out : String × Bytes) =>
      (pure (some out.1, out.2) : Except Fault (Option String × Bytes))).toOption =
      (tree.text?.map some).map (·, rest) := by
    have hread := means_readText (w := []) areBlanks_nil hs hrest
    rw [List.nil_append] at hread
    rw [toOption_bind, hread]
    cases tree.text? <;> rfl
  rw [readOptionalText, skipBlanks_spells hw hs]
  cases hs with
  | null => rfl
  | true | false | string | array | object => exact htext
  | number hn =>
    obtain ⟨b, more, rfl, hb⟩ := hn.exists_cons
    split
    next heq => exact absurd (List.cons.inj heq).1 (ne_of_beginsNumber hb (by decide))
    next => exact htext

lemma means_readOptionalIdentifier (depth : Nat) :
    Means Spells (readOptionalIdentifier depth) (Tree.optionalIdentifier? depth) := by
  intro tree w s rest hw hs hrest
  rw [readOptionalIdentifier, toOption_bind, means_readValue depth hw hs hrest,
    Tree.optionalIdentifier?]
  cases tree.value? depth <;> rfl

lemma means_readIdentifier (depth : Nat) :
    Means Spells (readIdentifier depth) (Tree.identifier? depth) := by
  intro tree w s rest hw hs hrest
  rw [readIdentifier, toOption_bind, means_readValue depth hw hs hrest, Tree.identifier?]
  cases tree.value? depth with
  | none => rfl
  | some value =>
    dsimp only [Option.map_some, Option.bind_some]
    cases value.asIdentifier <;> rfl

lemma means_readList {α : Type} {item : Reader α} {meaning : Tree → Option α}
    (hitem : Means Spells item meaning) : Means Spells (readList item) (Tree.list? meaning) := by
  intro tree w s rest hw hs hrest
  rw [readList, skipBlanks_spells hw hs]
  cases hs with
  | null | true | false | string | object => rfl
  | number hn =>
    obtain ⟨b, more, rfl, hb⟩ := hn.exists_cons
    split
    next heq => exact absurd (List.cons.inj heq).1 (ne_of_beginsNumber hb (by decide))
    next => rfl
  | array hitems => exact readBracketed_append hitem starts_spells (Or.inl rfl) hitems rest

/-! ## Documents -/

/-- **A document is read as what its tree means.** -/
lemma readDocument_spells {reader : Reader α} {meaning : Tree → Option α}
    (hreader : Means Spells reader meaning) {body : Bytes} (hbody : SpellsDocument tree body) :
    (readDocument reader body).toOption = meaning tree := by
  obtain ⟨hw, hvalue, hw'⟩ := hbody
  rw [readDocument, toOption_bind, hreader hw hvalue (delimited_of_blanks hw')]
  cases meaning tree with
  | none => rfl
  | some value => exact congrArg Except.toOption (if_pos (skipBlanks_of_blanks hw'))

end AnnotationReview.Json
