import AnnotationReview.Text.Blank
import AnnotationReview.Text.HeaderValue
import AnnotationReview.Text.Numeral
import AnnotationReview.Text.Split

/-!
# Settings of the host

The settings come from seven variables, each with a default.  Four of them are numbers, and the
first that is none stops the start; so do allowed origins that cannot stand in a header or that
would allow everybody.
-/

namespace AnnotationReview.Host

/-- The settings of a host. -/
structure Settings where
  host : String
  port : Nat
  /-- The origins that pages may come from. -/
  origins : List String
  requestTimeout : Nat
  backendUrl : String
  backendTimeout : Nat
  /-- How many seconds a mounted annotation may go untouched. -/
  annotationIdle : Nat
deriving DecidableEq, Repr

/-- Why a host cannot start. -/
inductive StartError where
  /-- A variable is no unsigned number of so many bits. -/
  | badNumber (variableName : String) (bits : Nat) (error : Text.NumeralError)
  | badOrigin (origin : String)
  | wildcardOrigin
deriving DecidableEq, Repr

namespace StartError

/-- The message with which the start ends. -/
def message : StartError → String
  | .badNumber variableName bits error =>
    variableName ++ " must be a valid u" ++ toString bits ++ ": ParseIntError \x7b kind: " ++
      error.name ++ " \x7d"
  | .badOrigin origin => "Invalid CORS origin '" ++ origin ++ "': failed to parse header value"
  | .wildcardOrigin =>
    "Wildcard origin (`*`) cannot be passed to `AllowOrigin::list`. " ++
      "Use `AllowOrigin::any()` instead"

end StartError

/-- The variables that are set. -/
abbrev Environment := List (String × String)

/-- The value of a numeric variable. -/
def Environment.number (environment : Environment) (variableName : String) (bits default : Nat) :
    Except StartError Nat :=
  match environment.lookup variableName with
  | none => .ok default
  | some text =>
    match Text.readNumeral (Text.greatestWord bits) text with
    | .ok n => .ok n
    | .error error => .error (.badNumber variableName bits error)

/-- The origins in a list separated by commas: trimmed, and without empty ones. -/
def readOrigins (text : String) : List String :=
  ((Text.splitOn ',' text.toList).map fun piece =>
    Text.trim (String.ofList piece)).filter fun origin => !origin.isEmpty

/-- The settings that the variables give. -/
def Settings.load (environment : Environment) : Except StartError Settings := do
  let text (variableName default : String) : String :=
    (environment.lookup variableName).getD default
  let port ← environment.number "PORT" 16 3000
  let requestTimeout ← environment.number "REQUEST_TIMEOUT_SECS" 64 30
  let backendTimeout ← environment.number "BACKEND_TIMEOUT_SECS" 64 10
  let annotationIdle ← environment.number "ANNOTATION_IDLE_SECS" 64 3600
  return {
    host := text "HOST" "0.0.0.0"
    port
    origins := readOrigins (text "CORS_ORIGINS" "http://localhost:5173")
    requestTimeout
    backendUrl := text "BACKEND_URL" "http://localhost:8000"
    backendTimeout
    annotationIdle }

/-- Refuses allowed origins with which a host cannot start: the first that cannot stand in a
header, and else the one that stands for all. -/
def checkOrigins (origins : List String) : Except StartError Unit :=
  match origins.find? fun origin => !Text.isHeaderValue origin with
  | some origin => .error (.badOrigin origin)
  | none => if origins.contains "*" then .error .wildcardOrigin else .ok ()

end AnnotationReview.Host
