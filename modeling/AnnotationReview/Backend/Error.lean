import AnnotationReview.Text.Quoted

/-!
# Failed calls

A call fails in transport when no usable answer arrives, and otherwise because of what the
backend answered.
-/

namespace AnnotationReview.Backend

/-- Why a call failed. -/
inductive Error where
  /-- No request can be built; the URL is given if it was read but is of no use. -/
  | unbuildable (url? : Option String)
  /-- The request for a URL got no response. -/
  | unsent (url : String)
  /-- The body of a successful response is not what the endpoint answers with. -/
  | undecodable
  /-- The response has a status other than success. -/
  | refused (status : Nat) (body : String)
  /-- The body does not report the success of the endpoint. -/
  | unexpectedStatus (endpoint expected : String) (actual : Option String)
  /-- The body reports success and lacks a field. -/
  | missingField (endpoint field : String)
deriving DecidableEq, Repr

namespace Error

/-- No usable answer arrived. -/
def isTransport : Error → Bool
  | .unbuildable _ | .unsent _ | .undecodable => true
  | .refused .. | .unexpectedStatus .. | .missingField .. => false

/-- The failure in one line. -/
def describe : Error → String
  | .unbuildable none => "HTTP request failed: builder error"
  | .unbuildable (some url) => "HTTP request failed: builder error for url (" ++ url ++ ")"
  | .unsent url => "HTTP request failed: error sending request for url (" ++ url ++ ")"
  | .undecodable => "HTTP request failed: error decoding response body"
  | .refused status body => "Backend API error (" ++ toString status ++ "): " ++ body
  | .unexpectedStatus endpoint expected actual =>
    let found := match actual with
      | some status => "Some(" ++ Text.quote status ++ ")"
      | none => "None"
    endpoint ++ " returned status " ++ found ++ ", expected " ++ expected
  | .missingField endpoint field => endpoint ++ " response is missing '" ++ field ++ "'"

end Error

end AnnotationReview.Backend
