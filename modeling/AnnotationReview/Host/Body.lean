import AnnotationReview.Host.MediaType
import AnnotationReview.Host.Request
import AnnotationReview.Json.Record
import AnnotationReview.Text.HeaderValue

/-!
# Bodies of requests

A request that carries data has a JSON body and says so.  Its body is a record, and which of the
possible faults is answered is decided by the first one met while reading.
-/

namespace AnnotationReview.Host

open Json (RecordShape)

/-- Why a request is turned away before anything is looked at that it asks for. -/
inductive Rejection where
  /-- The header does not say that the body is JSON. -/
  | unsupportedMediaType
  /-- The body is no JSON document. -/
  | malformedBody
  /-- The body is not what the request has to carry. -/
  | mistypedBody
  /-- A segment of the path is no text or no index. -/
  | badPath
deriving DecidableEq, Repr

namespace Rejection

/-- The status of the answer. -/
def status : Rejection → Nat
  | .unsupportedMediaType => 415
  | .malformedBody => 400
  | .mistypedBody => 422
  | .badPath => 400

/-- What the answer says. -/
def message : Rejection → String
  | .unsupportedMediaType => "The body has to be JSON."
  | .malformedBody => "The body is not a JSON document."
  | .mistypedBody => "The body does not hold what this request needs."
  | .badPath => "The path does not name what this request needs."

end Rejection

/-! ## The records -/

/-- The data with which an annotation is mounted. -/
structure MountData where
  annotationId : String
  text : String
deriving DecidableEq, Repr

/-- The data with which an edit is started. -/
structure OpenEditData where
  target? : Option String
  placeholder? : Option String
deriving DecidableEq, Repr

/-- The data of an edit. -/
structure EditData where
  edited : String
  comment : String
deriving DecidableEq, Repr

/-- The data of a rejection. -/
structure CommentData where
  comment : String
deriving DecidableEq, Repr

/-- A field that has to hold a text. -/
def requiredText (name : String) : Json.Field String := ⟨name, Json.readText⟩

/-- A field that holds a text or nothing. -/
def optionalText (name : String) : Json.Field (Option String) := ⟨name, Json.readOptionalText⟩

/-- Reads the data with which an annotation is mounted. -/
def MountData.read : Json.Reader MountData :=
  RecordShape.readAs ⟨[requiredText "annotation_id", requiredText "text"], false⟩
    fun fields => do return ⟨← fields.lookup "annotation_id", ← fields.lookup "text"⟩

/-- Reads the data with which an edit is started. -/
def OpenEditData.read : Json.Reader OpenEditData :=
  RecordShape.readAs ⟨[optionalText "target", optionalText "placeholder"], false⟩
    fun fields => some ⟨(fields.lookup "target").join, (fields.lookup "placeholder").join⟩

/-- Reads the data of an edit. -/
def EditData.read : Json.Reader EditData :=
  RecordShape.readAs ⟨[requiredText "edited", requiredText "comment"], false⟩
    fun fields => do return ⟨← fields.lookup "edited", ← fields.lookup "comment"⟩

/-- Reads the data of a rejection. -/
def CommentData.read : Json.Reader CommentData :=
  RecordShape.readAs ⟨[requiredText "comment"], false⟩
    fun fields => do return ⟨← fields.lookup "comment"⟩

/-- The header says that the body is JSON. -/
def Request.saysJson (request : Request) : Bool :=
  (request.header? "content-type").any fun value =>
    Text.isReadable value && (MediaType.parse? value).any MediaType.isJson

/-- The record that a request carries. -/
def Request.record {ρ : Type} (request : Request) (read : Json.Reader ρ) :
    Except Rejection ρ :=
  if request.saysJson then
    match Json.readDocument read (Text.encode request.body) with
    | .ok record => .ok record
    | .error .malformed => .error .malformedBody
    | .error .mistyped => .error .mistypedBody
  else .error .unsupportedMediaType

end AnnotationReview.Host
