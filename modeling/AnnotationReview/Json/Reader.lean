import AnnotationReview.Json.Lexeme

/-!
# Reading values

`readValue` reads a value whose brackets are nested at most to a given depth; `skipValue` passes
over a value of any depth.  The typed readers below them expect a text, an optional text or a
list, and tell a value of another type from bytes that are no value.
-/

namespace AnnotationReview.Json

/-! ## Brackets -/

/-- Items separated by commas, up to the closing bracket.  Every item and every comma takes a
byte, so the length of the bytes bounds the number of rounds. -/
def readSequence {α : Type} (closing : UInt8) (item : Reader α) : Nat → Reader (List α)
  | 0, _ => .error .malformed
  | rounds + 1, s => do
    let (x, s) ← item s
    match skipBlanks s with
    | b :: s =>
      if b = closing then return ([x], s)
      else if b = 0x2C then do
        let (xs, s) ← readSequence closing item rounds s
        return (x :: xs, s)
      else .error .malformed
    | [] => .error .malformed

/-- What stands between an opening bracket, already read, and the closing one. -/
def readBracketed {α : Type} (closing : UInt8) (item : Reader α) : Reader (List α) := fun s =>
  match skipBlanks s with
  | b :: rest =>
    if b = closing then .ok ([], rest)
    else readSequence closing item (b :: rest).length (b :: rest)
  | [] => .error .malformed

/-- The items of an array behind its opening bracket. -/
def readItems {α : Type} (item : Reader α) : Reader (List α) :=
  readBracketed 0x5D item

/-- A member: a key, a colon and a value. -/
def readMember {κ α : Type} (key : Reader κ) (value : κ → Reader α) : Reader (κ × α) := fun s =>
  match skipBlanks s with
  | 0x22 :: s => do
    let (k, s) ← key s
    match skipBlanks s with
    | 0x3A :: s => do
      let (v, s) ← value k s
      return ((k, v), s)
    | _ => .error .malformed
  | _ => .error .malformed

/-- The members of an object behind its opening brace. -/
def readMembers {κ α : Type} (key : Reader κ) (value : Reader α) : Reader (List (κ × α)) :=
  readBracketed 0x7D (readMember key fun _ => value)

/-! ## Values -/

/-- A value without brackets. -/
def readScalar : Reader Value := fun s =>
  match s with
  | [] => .error .malformed
  | b :: rest =>
    if b = 0x22 then do
      let (text, s) ← readStringBody rest
      return (.string text, s)
    else if b = 0x2D ∨ isDigit b then do
      let (n, s) ← readNumber s
      return (.number n, s)
    else
      match dropWord? [0x6E, 0x75, 0x6C, 0x6C] s, dropWord? [0x74, 0x72, 0x75, 0x65] s,
          dropWord? [0x66, 0x61, 0x6C, 0x73, 0x65] s with
      | some s, _, _ => .ok (.null, s)
      | _, some s, _ => .ok (.bool true, s)
      | _, _, some s => .ok (.bool false, s)
      | _, _, _ => .error .malformed

/-- Puts a member in its place by the order of keys; a later member of the same key wins. -/
def insertMember (key : String) (value : Value) :
    List (String × Value) → List (String × Value)
  | [] => [(key, value)]
  | (k, v) :: members =>
    if key < k then (key, value) :: (k, v) :: members
    else if key = k then (key, value) :: members
    else (k, v) :: insertMember key value members

/-- The members of an object by the order of their keys, the last one of each key. -/
def sortMembers (members : List (String × Value)) : List (String × Value) :=
  members.foldl (fun sorted (key, value) => insertMember key value sorted) []

/-- A value with at most `depth` brackets around any part of it. -/
def readValue (depth : Nat) : Reader Value := fun s =>
  match depth, skipBlanks s with
  | _, [] => .error .malformed
  | depth, b :: s =>
    if b = 0x5B ∨ b = 0x7B then
      match depth with
      | 0 => .error .malformed
      | depth + 1 =>
        if b = 0x5B then do
          let (items, s) ← readItems (readValue depth) s
          return (.array items, s)
        else do
          let (members, s) ← readMembers readStringBody (readValue depth) s
          return (.object (sortMembers members), s)
    else readScalar (b :: s)

/-- Passes over a value with at most `depth` brackets around any part of it. -/
def skipNested (depth : Nat) : Reader Unit := fun s =>
  match depth, skipBlanks s with
  | _, [] => .error .malformed
  | depth, b :: s =>
    if b = 0x5B ∨ b = 0x7B then
      match depth with
      | 0 => .error .malformed
      | depth + 1 =>
        if b = 0x5B then do
          let (_, s) ← readItems (skipNested depth) s
          return ((), s)
        else do
          let (_, s) ← readMembers skipStringBody (skipNested depth) s
          return ((), s)
    else if b = 0x22 then skipStringBody s
    else if b = 0x2D ∨ isDigit b then do
      let (_, s) ← scanNumber (b :: s)
      return ((), s)
    else do
      let (_, s) ← readScalar (b :: s)
      return ((), s)

/-- Passes over a value.  Each bracket takes a byte, so no value is nested deeper than the bytes
are long. -/
def skipValue : Reader Unit := fun s =>
  skipNested s.length s

/-! ## Values of one type -/

/-- The fault of bytes where a value of another type was expected: they hold a value, or they are
malformed. -/
def wrongType : Bytes → Fault
  | [] => .malformed
  | b :: s =>
    if b = 0x5B ∨ b = 0x7B then .mistyped
    else match readScalar (b :: s) with
      | .ok _ => .mistyped
      | .error _ => .malformed

/-- A string. -/
def readText : Reader String := fun s =>
  match skipBlanks s with
  | 0x22 :: s => readStringBody s
  | s => .error (wrongType s)

/-- A string or null. -/
def readOptionalText : Reader (Option String) := fun s =>
  match skipBlanks s with
  | 0x6E :: s =>
    match dropWord? [0x75, 0x6C, 0x6C] s with
    | some s => .ok (none, s)
    | none => .error .malformed
  | s => do
    let (text, s) ← readText s
    return (some text, s)

/-- The text that stands for a value in an identifier: a string's content, the compact text of
any other value, and none for null. -/
def Value.asIdentifier : Value → Option String
  | .null => none
  | .string text => some text
  | value => some value.toText

/-- An identifier or null. -/
def readOptionalIdentifier (depth : Nat) : Reader (Option String) := fun s => do
  let (value, s) ← readValue depth s
  return (value.asIdentifier, s)

/-- An identifier. -/
def readIdentifier (depth : Nat) : Reader String := fun s => do
  let (value, s) ← readValue depth s
  match value.asIdentifier with
  | some text => return (text, s)
  | none => .error .mistyped

/-- An array whose items are all of one type. -/
def readList {α : Type} (item : Reader α) : Reader (List α) := fun s =>
  match skipBlanks s with
  | 0x5B :: s => readItems item s
  | s => .error (wrongType s)

/-- A whole document: one value with nothing but blanks around it. -/
def readDocument {α : Type} (reader : Reader α) (s : Bytes) : Except Fault α := do
  let (value, rest) ← reader s
  if skipBlanks rest = [] then return value else .error .malformed

end AnnotationReview.Json
