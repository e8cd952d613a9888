import AnnotationReview.Json.Lexeme
import Mathlib.Data.List.Forall2
import Mathlib.Tactic.Lemma

/-!
# The grammar of documents

What a document says is a `Tree`: its values as they are written, without the blanks between them.
`Spells` relates a tree to all the ways of writing it, by the rules of the grammar alone and
without reference to how documents are read.  A string is a list of pieces, so that it may be
written with escapes or without, and need not be a text: a value may hold surrogates that are not
paired, or bytes that are not UTF-8.  A tree keeps the members of an object in their order, also
where a key comes twice.
-/

namespace AnnotationReview.Json

/-- A value as it is written. -/
inductive Tree where
  | null
  | bool (value : Bool)
  | number (value : NumberText)
  | string (pieces : List Piece)
  | array (items : List Tree)
  | object (members : List (List Piece × Tree))

/-- Blanks, as they may stand before and behind every lexeme. -/
def AreBlanks (w : Bytes) : Prop := ∀ b ∈ w, isBlank b = true

instance : DecidablePred AreBlanks := fun w => List.decidableBAll _ w

lemma areBlanks_nil : AreBlanks [] := by simp [AreBlanks]

/-! ## Numbers -/

/-- One digit or more. -/
structure AreDigits (digits : Bytes) : Prop where
  filled : digits ≠ []
  decimal : ∀ b ∈ digits, isDigit b = true

/-- The ways of writing the digits behind the point. -/
inductive SpellsFraction : Bytes → Bytes → Prop where
  | none : SpellsFraction [] []
  | some {digits : Bytes} (hdigits : AreDigits digits) : SpellsFraction digits (0x2E :: digits)

/-- The ways of writing an exponent: with a small letter or a capital, and a plus sign or none. -/
inductive SpellsExponent : Option (Bool × Bytes) → Bytes → Prop where
  | none : SpellsExponent none []
  | unsigned {letter : UInt8} {digits : Bytes} (hletter : letter = 0x65 ∨ letter = 0x45)
      (hdigits : AreDigits digits) : SpellsExponent (some (false, digits)) (letter :: digits)
  | positive {letter : UInt8} {digits : Bytes} (hletter : letter = 0x65 ∨ letter = 0x45)
      (hdigits : AreDigits digits) :
      SpellsExponent (some (false, digits)) (letter :: 0x2B :: digits)
  | negative {letter : UInt8} {digits : Bytes} (hletter : letter = 0x65 ∨ letter = 0x45)
      (hdigits : AreDigits digits) :
      SpellsExponent (some (true, digits)) (letter :: 0x2D :: digits)

/-- The ways of writing a number.  A leading zero is the only digit before the point. -/
inductive SpellsNumber (n : NumberText) : Bytes → Prop where
  | mk {fraction exponent : Bytes} (hwhole : AreDigits n.whole)
      (hzero : n.whole.head? = some 0x30 → n.whole.length = 1)
      (hfraction : SpellsFraction n.fraction fraction)
      (hexponent : SpellsExponent n.exponent? exponent) :
      SpellsNumber n ((if n.negative then [0x2D] else []) ++ (n.whole ++ (fraction ++ exponent)))

/-! ## Strings -/

/-- The letters behind a backslash and the bytes they stand for. -/
def escapes : List (UInt8 × UInt8) :=
  [(0x22, 0x22), (0x5C, 0x5C), (0x2F, 0x2F), (0x62, 0x08), (0x66, 0x0C), (0x6E, 0x0A),
    (0x72, 0x0D), (0x74, 0x09)]

/-- The ways of writing a string, without its quotes. -/
inductive SpellsString : List Piece → Bytes → Prop where
  | nil : SpellsString [] []
  | plain {b : UInt8} {pieces : List Piece} {s : Bytes} (hcontrol : 0x20 ≤ b) (hquote : b ≠ 0x22)
      (hbackslash : b ≠ 0x5C) (hmore : SpellsString pieces s) :
      SpellsString (.byte b :: pieces) (b :: s)
  | escape {letter b : UInt8} {pieces : List Piece} {s : Bytes} (hletter : (letter, b) ∈ escapes)
      (hmore : SpellsString pieces s) :
      SpellsString (.byte b :: pieces) (0x5C :: letter :: s)
  | unit {a b c d : UInt8} {i j k l : Nat} {pieces : List Piece} {s : Bytes}
      (ha : hexValue? a = some i) (hb : hexValue? b = some j) (hc : hexValue? c = some k)
      (hd : hexValue? d = some l) (hmore : SpellsString pieces s) :
      SpellsString (.unit (16 * (16 * (16 * i + j) + k) + l) :: pieces)
        (0x5C :: 0x75 :: a :: b :: c :: d :: s)

/-! ## Values -/

section

variable {α : Type}

/-- The ways of writing what follows an item, up to the closing bracket: more items with a comma
before each. -/
inductive SpellsRest (spells : α → Bytes → Prop) (closing : UInt8) : List α → Bytes → Prop where
  | nil {w : Bytes} (hw : AreBlanks w) : SpellsRest spells closing [] (w ++ [closing])
  | cons {x : α} {xs : List α} {w w' s rest : Bytes} (hw : AreBlanks w) (hw' : AreBlanks w')
      (hx : spells x s) (hrest : SpellsRest spells closing xs rest) :
      SpellsRest spells closing (x :: xs) (w ++ 0x2C :: (w' ++ (s ++ rest)))

/-- The ways of writing items between brackets, the closing one included. -/
inductive SpellsItems (spells : α → Bytes → Prop) (closing : UInt8) : List α → Bytes → Prop where
  | nil {w : Bytes} (hw : AreBlanks w) : SpellsItems spells closing [] (w ++ [closing])
  | cons {x : α} {xs : List α} {w s rest : Bytes} (hw : AreBlanks w)
      (hx : spells x s) (hrest : SpellsRest spells closing xs rest) :
      SpellsItems spells closing (x :: xs) (w ++ (s ++ rest))

/-- The ways of writing a member: its key, a colon and its value. -/
inductive SpellsMember (spells : α → Bytes → Prop) : List Piece × α → Bytes → Prop where
  | mk {key : List Piece} {value : α} {k w w' s : Bytes} (hkey : SpellsString key k)
      (hw : AreBlanks w) (hw' : AreBlanks w') (hvalue : spells value s) :
      SpellsMember spells (key, value) (0x22 :: (k ++ 0x22 :: (w ++ 0x3A :: (w' ++ s))))

end

/-- The ways of writing a value. -/
inductive Spells : Tree → Bytes → Prop where
  | null : Spells .null [0x6E, 0x75, 0x6C, 0x6C]
  | true : Spells (.bool true) [0x74, 0x72, 0x75, 0x65]
  | false : Spells (.bool false) [0x66, 0x61, 0x6C, 0x73, 0x65]
  | number {n : NumberText} {s : Bytes} (hn : SpellsNumber n s) : Spells (.number n) s
  | string {pieces : List Piece} {s : Bytes} (hpieces : SpellsString pieces s) :
      Spells (.string pieces) (0x22 :: (s ++ [0x22]))
  | array {items : List Tree} {s : Bytes} (hitems : SpellsItems Spells 0x5D items s) :
      Spells (.array items) (0x5B :: s)
  | object {members : List (List Piece × Tree)} {s : Bytes}
      (hmembers : SpellsItems (SpellsMember Spells) 0x7D members s) :
      Spells (.object members) (0x7B :: s)

/-- The ways of writing a document: one value with blanks around it. -/
inductive SpellsDocument (tree : Tree) : Bytes → Prop where
  | mk {w s w' : Bytes} (hw : AreBlanks w) (hvalue : Spells tree s) (hw' : AreBlanks w') :
      SpellsDocument tree (w ++ (s ++ w'))

/-! ## Writing without blanks -/

/-- What follows an item: the other items with a comma before each, and the closing bracket. -/
def writeRest (closing : UInt8) (more : List Bytes) : Bytes :=
  more.flatMap (0x2C :: ·) ++ [closing]

/-- Items with commas between them, and the closing bracket. -/
def writeItems (closing : UInt8) : List Bytes → Bytes
  | [] => [closing]
  | s :: more => s ++ writeRest closing more

/-- A key without escapes, a colon and a value. -/
def writeMember (key value : Bytes) : Bytes := 0x22 :: (key ++ 0x22 :: 0x3A :: value)

/-- The bytes need no escapes. -/
def IsPlain (bytes : Bytes) : Prop := ∀ b ∈ bytes, 0x20 ≤ b ∧ b ≠ 0x22 ∧ b ≠ 0x5C

instance : DecidablePred IsPlain := fun bytes => List.decidableBAll _ bytes

lemma spellsString_plain {bytes : Bytes} (hbytes : IsPlain bytes) :
    SpellsString (bytes.map .byte) bytes := by
  induction bytes with
  | nil => exact .nil
  | cons b bytes ih =>
    obtain ⟨hcontrol, hquote, hbackslash⟩ := hbytes b List.mem_cons_self
    exact .plain hcontrol hquote hbackslash (ih fun c hc => hbytes c (List.mem_cons_of_mem _ hc))

section

variable {α : Type} {spells : α → Bytes → Prop} {closing : UInt8} {xs : List α}
  {written : List Bytes}

lemma spellsRest_write (hitems : List.Forall₂ spells xs written) :
    SpellsRest spells closing xs (writeRest closing written) := by
  induction hitems with
  | nil => exact .nil areBlanks_nil
  | cons hx _ ih =>
    have hcons := SpellsRest.cons areBlanks_nil areBlanks_nil hx ih
    simpa [writeRest] using hcons

lemma spellsItems_write (hitems : List.Forall₂ spells xs written) :
    SpellsItems spells closing xs (writeItems closing written) := by
  cases hitems with
  | nil => exact .nil areBlanks_nil
  | cons hx hmore =>
    rw [writeItems, ← List.nil_append (_ ++ _)]
    exact .cons areBlanks_nil hx (spellsRest_write hmore)

lemma spellsMember_write {key value : Bytes} {x : α} (hkey : IsPlain key) (hx : spells x value) :
    SpellsMember spells (key.map .byte, x) (writeMember key value) :=
  .mk (spellsString_plain hkey) areBlanks_nil areBlanks_nil hx

end

end AnnotationReview.Json
