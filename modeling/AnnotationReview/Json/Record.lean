import AnnotationReview.Json.Reader

/-!
# Reading records

A record is an object with known members, or an array of their values in the order in which the
fields are declared.  In an object unknown members are passed over and a known member may not
come twice.  An array has to hold all the fields unless the record says that its end may be
missing, and may not hold more.
-/

namespace AnnotationReview.Json

/-- A field of a record: its name and how its value is read. -/
structure Field (α : Type) where
  name : String
  read : Reader α

/-- The fields of a record in the order of their declaration. -/
structure RecordShape (α : Type) where
  fields : List (Field α)
  /-- An array may end before the last field. -/
  endMayBeMissing : Bool

namespace RecordShape

variable {α : Type}

/-- What is left behind a colon. -/
def dropColon (s : Bytes) : Except Fault Bytes :=
  match skipBlanks s with
  | 0x3A :: s => .ok s
  | _ => .error .malformed

/-- One member of an object, after those in `done`. -/
def readField (shape : RecordShape α) (done : List (String × α)) :
    Reader (List (String × α)) := fun s => do
  match skipBlanks s with
  | 0x22 :: s =>
    let (key, s) ← readStringBody s
    match shape.fields.find? (·.name == key) with
    | some field =>
      if done.any (·.1 == key) then .error .mistyped
      else
        let s ← dropColon s
        let (value, s) ← field.read s
        return (done ++ [(key, value)], s)
    | none =>
      let s ← dropColon s
      let (_, s) ← skipValue s
      return (done, s)
  | _ => .error .malformed

/-- The members of an object up to its closing brace, after those in `done`; `rounds` bounds
their number. -/
def readFields (shape : RecordShape α) :
    Nat → List (String × α) → Reader (List (String × α))
  | 0, _, _ => .error .malformed
  | rounds + 1, done, s => do
    let (done, s) ← shape.readField done s
    match skipBlanks s with
    | 0x7D :: s => return (done, s)
    | 0x2C :: s => readFields shape rounds done s
    | _ => .error .malformed

/-- Whether another item of an array follows, and where it begins or what is left behind the
closing bracket. -/
def nextItem (isFirst : Bool) (s : Bytes) : Except Fault (Bool × Bytes) :=
  match skipBlanks s with
  | [] => .error .malformed
  | b :: rest =>
    if b = 0x5D then .ok (false, rest)
    else if isFirst then .ok (true, b :: rest)
    else if b = 0x2C then .ok (true, rest)
    else .error .malformed

/-- The items of an array for the fields that are left, up to its closing bracket. -/
def readValues (endMayBeMissing : Bool) :
    Bool → List (Field α) → Reader (List (String × α))
  | _, [], s =>
    match skipBlanks s with
    | 0x5D :: s => .ok ([], s)
    | _ => .error .malformed
  | isFirst, field :: fields, s => do
    let (present, s) ← nextItem isFirst s
    if present then
      let (value, s) ← field.read s
      let (more, s) ← readValues endMayBeMissing false fields s
      return ((field.name, value) :: more, s)
    else if endMayBeMissing then return ([], s)
    else .error .mistyped

/-- The fields that a record gives, by name. -/
def read (shape : RecordShape α) : Reader (List (String × α)) := fun s =>
  match skipBlanks s with
  | 0x7B :: s =>
    match skipBlanks s with
    | 0x7D :: s => .ok ([], s)
    | s => shape.readFields s.length [] s
  | 0x5B :: s => readValues shape.endMayBeMissing true shape.fields s
  | s => .error (wrongType s)

/-- What the fields of a record amount to; a record that lacks something it needs is
mistyped. -/
def readAs {ρ : Type} (shape : RecordShape α) (ofFields? : List (String × α) → Option ρ) :
    Reader ρ := fun s => do
  let (fields, s) ← shape.read s
  match ofFields? fields with
  | some record => return (record, s)
  | none => .error .mistyped

end RecordShape

end AnnotationReview.Json
