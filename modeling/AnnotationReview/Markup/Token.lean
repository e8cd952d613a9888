/-!
# Markup read back

`Token.scan` divides written markup into opening tags, closing tags and runs of text, the way a
browser's tokeniser does for the subset that is written here: names without quotes or brackets,
attribute values in double quotes, flags without a value.  Entities are left as they are.
-/

namespace AnnotationReview.Markup

/-- A unit of written markup. -/
inductive Token where
  | text (content : List Char)
  | opening (tag : List Char) (attributes : List (List Char × Option (List Char)))
  | closing (tag : List Char)
deriving DecidableEq, Repr

namespace Token

/-- Where the scanner stands.  What was read of the present unit is kept in reading order. -/
inductive Place where
  | content (seen : List Char)
  | tagStart
  | closingTag (name : List Char)
  | tagName (name : List Char)
  | attributeName (tag : List Char) (done : List (List Char × Option (List Char)))
      (name : List Char)
  | attributeValueStart (tag : List Char) (done : List (List Char × Option (List Char)))
      (name : List Char)
  | attributeValue (tag : List Char) (done : List (List Char × Option (List Char)))
      (name value : List Char)
  | attributeEnd (tag : List Char) (done : List (List Char × Option (List Char)))
deriving DecidableEq, Repr

/-- A run of text as a token; an empty run is none. -/
def ofContent : List Char → List Token
  | [] => []
  | seen => [.text seen]

/-- Reads one character: the tokens it completes and where the scanner stands after it. -/
def step (place : Place) (c : Char) : Option (List Token × Place) :=
  match place with
  | .content seen =>
    if c = '<' then some (ofContent seen, .tagStart)
    else some ([], .content (seen ++ [c]))
  | .tagStart =>
    if c = '/' then some ([], .closingTag [])
    else if c = '>' ∨ c = '<' ∨ c = ' ' then none
    else some ([], .tagName [c])
  | .closingTag name =>
    if c = '>' then some ([.closing name], .content [])
    else if c = '<' then none
    else some ([], .closingTag (name ++ [c]))
  | .tagName name =>
    if c = '>' then some ([.opening name []], .content [])
    else if c = ' ' then some ([], .attributeName name [] [])
    else if c = '<' then none
    else some ([], .tagName (name ++ [c]))
  | .attributeName tag done name =>
    if c = '=' then some ([], .attributeValueStart tag done name)
    else if c = '>' then some ([.opening tag (done ++ [(name, none)])], .content [])
    else if c = ' ' then some ([], .attributeName tag (done ++ [(name, none)]) [])
    else if c = '<' ∨ c = '"' then none
    else some ([], .attributeName tag done (name ++ [c]))
  | .attributeValueStart tag done name =>
    if c = '"' then some ([], .attributeValue tag done name []) else none
  | .attributeValue tag done name value =>
    if c = '"' then some ([], .attributeEnd tag (done ++ [(name, some value)]))
    else some ([], .attributeValue tag done name (value ++ [c]))
  | .attributeEnd tag done =>
    if c = '>' then some ([.opening tag done], .content [])
    else if c = ' ' then some ([], .attributeName tag done [])
    else none

/-- Reads on from a place to the end of the markup. -/
def scanFrom (place : Place) : List Char → Option (List Token)
  | [] =>
    match place with
    | .content seen => some (ofContent seen)
    | _ => none
  | c :: cs => do
    let (tokens, place) ← step place c
    let more ← scanFrom place cs
    return tokens ++ more

/-- The tokens of written markup; `none` if a tag is malformed or left open. -/
def scan (cs : List Char) : Option (List Token) :=
  scanFrom (.content []) cs

end Token

end AnnotationReview.Markup
