import AnnotationReview.Host.Error
import AnnotationReview.Host.Request
import AnnotationReview.Text.Blank
import AnnotationReview.Text.HeaderValue
import AnnotationReview.Text.Split

/-!
# Who a request acts for

The viewer's access code is the value of a cookie, or of a header field where there is no such
cookie.  Header values that are not readable as text are passed over.
-/

namespace AnnotationReview.Host

/-- The name of the cookie. -/
def accessCodeCookie : String := "access_code"

/-- The name of the header field. -/
def accessCodeHeader : String := "x-access-code"

/-- The access code that one pair of a cookie header gives: its name has to match exactly and its
value may not be empty. -/
def pairCode? (pair : List Char) : Option String :=
  match Text.splitFirst? '=' (Text.stripBoth Text.isBlank pair) with
  | some (name, value) =>
    if String.ofList name = accessCodeCookie ∧ value ≠ [] then some (String.ofList value) else none
  | none => none

/-- The first access code among the cookies, over all cookie headers in order. -/
def cookieCode? (values : List String) : Option String :=
  ((values.filter Text.isReadable).flatMap fun value =>
    Text.splitOn ';' value.toList).findSome? pairCode?

/-- The access code of a header value, unless it is blank. -/
def headerCode? (value : String) : Option String :=
  if Text.isReadable value then
    let code := Text.trim value
    if code.isEmpty then none else some code
  else none

/-- The access code a request gives. -/
def Request.accessCode? (request : Request) : Option String :=
  match cookieCode? (request.headerValues "cookie") with
  | some code => some code
  | none => (request.header? accessCodeHeader).bind headerCode?

/-- The viewer of a request, who has to be named. -/
def Request.viewer (request : Request) : Except Error String :=
  match request.accessCode? with
  | some code => .ok code
  | none => .error <| .unauthorized <|
      "Missing '" ++ accessCodeCookie ++ "' cookie or '" ++ accessCodeHeader ++ "' header"

end AnnotationReview.Host
