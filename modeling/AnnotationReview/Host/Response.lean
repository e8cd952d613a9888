import AnnotationReview.Host.Error
import AnnotationReview.Host.Request

/-!
# Responses of the host

A response has a status, header fields and a body.  Every response names the request it answers,
by the identifier that the request sent or by a fresh one.
-/

namespace AnnotationReview.Host

/-- What a response carries. -/
inductive Body where
  | empty
  | json (value : Json.Value)
  | html (text : String)
  | plain (text : String)
deriving Repr

/-- The identifier of a request. -/
inductive RequestId where
  /-- The one that the request sent. -/
  | sent (id : String)
  /-- One made up for it. -/
  | fresh
deriving DecidableEq, Repr

/-- A response. -/
structure Response where
  status : Nat
  headers : List (String × String)
  body : Body
  /-- `none` only for answers that are given before a request gets an identifier. -/
  requestId? : Option RequestId
deriving Repr

/-- The media type of a body. -/
def Body.contentType? : Body → Option String
  | .empty => none
  | .json _ => some "application/json"
  | .html _ => some "text/html; charset=utf-8"
  | .plain _ => some "text/plain; charset=utf-8"

namespace Response

/-- A response with a body and the header that tells its type. -/
def withBody (status : Nat) (body : Body) : Response where
  status
  headers := match body.contentType? with
    | some type => [("content-type", type)]
    | none => []
  body
  requestId? := none

/-- A response without a body. -/
def empty (status : Nat) : Response := withBody status .empty

/-- A response that carries a result. -/
def data (status : Nat) (value : Json.Value) : Response :=
  withBody status (.json (.object [("data", value)]))

/-- The response to an error. -/
def ofError (error : Error) : Response :=
  withBody error.answer.status (.json error.answer.body)

/-- Adds header fields. -/
def addHeaders (response : Response) (headers : List (String × String)) : Response :=
  { response with headers := response.headers ++ headers }

/-- Leaves the body out and keeps what the header says of it. -/
def dropBody (response : Response) : Response :=
  { response with body := .empty }

/-- Names the request that the response answers. -/
def identify (response : Response) (request : Request) : Response :=
  { response with requestId? := some <|
      match request.header? "x-request-id" with
      | some id => .sent id
      | none => .fresh }

end Response

end AnnotationReview.Host
