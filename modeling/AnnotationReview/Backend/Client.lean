import AnnotationReview.Backend.Call
import AnnotationReview.Backend.Error
import AnnotationReview.Text.HeaderValue
import AnnotationReview.Url.Parse

/-!
# Requests for calls

A client turns a call into a GET request below its base URL, with the parameters as the query
and the viewer's access code as a cookie.  Three things make a request impossible, and the first
of them decides the error: a base URL that cannot be read or has no host, an access code that
cannot stand in a header, and a URL that no server can be asked for.
-/

namespace AnnotationReview.Backend

/-- A caller of one backend. -/
structure Client where
  /-- The root of the backend, without slashes at its end. -/
  baseUrl : String
deriving DecidableEq, Repr

/-- A request that can be sent. -/
structure Request where
  url : Url
  /-- The value of the cookie header. -/
  cookie : String
deriving DecidableEq, Repr

/-- The cookie header that names a viewer. -/
def viewerCookie (viewer : String) : String := "access_code=" ++ viewer

/-- A text without the slashes at its end. -/
def dropTrailingSlashes (text : String) : String :=
  String.ofList (text.toList.reverse.dropWhile (· == '/')).reverse

namespace Client

/-- The client of the backend at a URL. -/
def ofUrl (url : String) : Client := ⟨dropTrailingSlashes url⟩

/-- The text of the URL of an endpoint, without parameters. -/
def endpointText (client : Client) (query : Query) : String :=
  client.baseUrl ++ "/" ++ query.endpoint

/-- The request for a call. -/
def request (client : Client) (call : Call) : Except Error Request :=
  match Url.parse? (client.endpointText call.query) with
  | none => .error (.unbuildable none)
  | some url =>
    if !url.hasHost then .error (.unbuildable (some url.toText))
    else if !Text.isHeaderValue (viewerCookie call.viewer) then .error (.unbuildable none)
    else
      let url := url.withoutUser.addParameters call.query.parameters
      if url.isRequestable then .ok ⟨url, viewerCookie call.viewer⟩
      else .error (.unbuildable (some url.toText))

end Client

end AnnotationReview.Backend
