/-!
# Requests to the host

A request as it arrives: method, path with query, header fields in the order in which they were
sent, and a body.  Names of header fields are compared without regard to case.
-/

namespace AnnotationReview.Host

/-- A request. -/
structure Request where
  method : String
  /-- Path and query. -/
  path : String
  headers : List (String × String)
  body : String
deriving DecidableEq, Repr

namespace Request

/-- The values of a header field, whose name is given in lower case. -/
def headerValues (request : Request) (name : String) : List String :=
  (request.headers.filter fun (n, _) => n.toLower == name).map Prod.snd

/-- The first value of a header field. -/
def header? (request : Request) (name : String) : Option String :=
  (request.headerValues name).head?

end Request

end AnnotationReview.Host
