import AnnotationReview.Backend.Call
import AnnotationReview.Backend.Error
import AnnotationReview.Json.Record
import AnnotationReview.Text.Utf16

/-!
# Reading answers

A response counts if its status is in the two hundreds.  Its body is then a record of the
endpoint's shape; the endpoints that change something also name their success in the field
`status`.  The first of these to fail decides the error: status, body, success, fields in the
order of the answer.

A response is its status and its body.  Its headers are left out, so that the text of a refusal is
read as if no header named its encoding.
-/

namespace AnnotationReview.Backend

open Json (RecordShape)

/-- The word in `status` that reports a success. -/
def Query.success : Query → String
  | .reject _ => "REJECT_UPDATE_SUCCESS"
  | .submit _ => "ANNOTATION_UPDATE_SAVE_SUCCESS"
  | .accept _ => "ACCEPT_UPDATE_SUCCESS"
  | .retract _ => "RETRACT_UPDATE_SUCCESS"
  | .statusOf _ | .updatesOf _ => ""

/-! ## Shapes -/

/-- How deep brackets may be nested in a document, the outermost ones included. -/
def nestingLimit : Nat := 127

/-- A field that holds a text or nothing. -/
def textField (name : String) : Json.Field (Option String) := ⟨name, Json.readOptionalText⟩

/-- A field that holds an identifier or nothing, directly in the document. -/
def identifierField (name : String) : Json.Field (Option String) :=
  ⟨name, Json.readOptionalIdentifier (nestingLimit - 1)⟩

/-- The answer to a rejection and to a retraction. -/
def statusShape : RecordShape (Option String) := ⟨[textField "status"], true⟩

/-- The answer to a submission. -/
def savedShape : RecordShape (Option String) :=
  ⟨[textField "status", identifierField "update_id", textField "access_code",
    identifierField "submission_time"], true⟩

/-- The answer to an acceptance. -/
def acceptedShape : RecordShape (Option String) :=
  ⟨[textField "status", textField "updated_str", textField "old_annotation_nl"], true⟩

/-- The answer to the question for a status. -/
def updateStatusShape : RecordShape (Option String) := ⟨[textField "update_status"], true⟩

/-- An update in a list, which lies three brackets deep in the document. -/
def listedShape : RecordShape String :=
  ⟨[⟨"update_id", Json.readIdentifier (nestingLimit - 3)⟩,
    ⟨"annotation_access_code", Json.readText⟩,
    ⟨"access_code", Json.readText⟩,
    ⟨"submission_time", Json.readIdentifier (nestingLimit - 3)⟩,
    ⟨"update_str", Json.readText⟩,
    ⟨"comment_str", Json.readText⟩], false⟩

/-- The update that the fields of a record describe; all of them are needed. -/
def Listed.ofFields? (fields : List (String × String)) : Option Listed := do
  return {
    updateId := ← fields.lookup "update_id"
    annotationAuthor := ← fields.lookup "annotation_access_code"
    proposer := ← fields.lookup "access_code"
    submittedAt := ← fields.lookup "submission_time"
    text := ← fields.lookup "update_str"
    comment := ← fields.lookup "comment_str" }

/-- An update in a list. -/
def readListed : Json.Reader Listed :=
  listedShape.readAs Listed.ofFields?

/-- The answer to the question for the updates of an annotation. -/
def updatesShape : RecordShape (List Listed) :=
  ⟨[⟨"update_list", Json.readList readListed⟩], true⟩

/-! ## From a body to an answer -/

/-- The fields that a body gives. -/
def readBody {α : Type} (shape : RecordShape α) (body : Bytes) :
    Except Error (List (String × α)) :=
  match Json.readDocument shape.read body with
  | .ok fields => .ok fields
  | .error _ => .error .undecodable

/-- The value of a field, `none` if it is missing or null. -/
def fieldText (fields : List (String × Option String)) (name : String) : Option String :=
  (fields.lookup name).join

/-- The value of a field that the answer cannot do without. -/
def requireField (query : Query) (fields : List (String × Option String)) (name : String) :
    Except Error String :=
  match fieldText fields name with
  | some text => .ok text
  | none => .error (.missingField query.endpoint name)

/-- Refuses a body that does not report the success of its endpoint. -/
def expectSuccess (query : Query) (fields : List (String × Option String)) :
    Except Error Unit :=
  let status := fieldText fields "status"
  if status = some query.success then .ok ()
  else .error (.unexpectedStatus query.endpoint query.success status)

/-- The answer that the body of a successful response gives.  A rejection needs no status. -/
def Query.decode (query : Query) (body : Bytes) : Except Error query.Answer :=
  match query with
  | .reject updateId => do
    let fields ← readBody statusShape body
    if fieldText fields "status" = none then return ()
    else expectSuccess (.reject updateId) fields
  | .submit submission => do
    let query := Query.submit submission
    let fields ← readBody savedShape body
    expectSuccess query fields
    return {
      updateId := ← requireField query fields "update_id"
      accessCode := ← requireField query fields "access_code"
      submittedAt := ← requireField query fields "submission_time" }
  | .statusOf updateId => do
    let fields ← readBody updateStatusShape body
    requireField (.statusOf updateId) fields "update_status"
  | .accept updateId => do
    let query := Query.accept updateId
    let fields ← readBody acceptedShape body
    expectSuccess query fields
    return {
      newText := ← requireField query fields "updated_str"
      oldText := fieldText fields "old_annotation_nl" }
  | .retract updateId => do
    let fields ← readBody statusShape body
    expectSuccess (.retract updateId) fields
  | .updatesOf _ => do
    let fields ← readBody updatesShape body
    return (fields.lookup "update_list").getD []

/-- The text of the body of a refusal.  A byte order mark in front is dropped and tells the
encoding; without one the body is UTF-8, as it is where the response names no other encoding beside
it. -/
def refusalText : Bytes → String
  | 0xEF :: 0xBB :: 0xBF :: body => Text.decodeLossy body
  | 0xFE :: 0xFF :: body => Text.decodeLossyUtf16 .bigFirst body
  | 0xFF :: 0xFE :: body => Text.decodeLossyUtf16 .smallFirst body
  | body => Text.decodeLossy body

/-- A response's status reports success. -/
def isSuccess (status : Nat) : Bool :=
  200 ≤ status && status < 300

/-- The answer that a response gives. -/
def Query.conclude (query : Query) (status : Nat) (body : Bytes) : Except Error query.Answer :=
  if isSuccess status then query.decode body
  else .error (.refused status (refusalText body))

end AnnotationReview.Backend
