/-!
# Media types

A media type is a type, a slash and a subtype, each a token, followed by parameters.  A plus
sign in the subtype sets off a suffix.  Letters count without regard to case.
-/

namespace AnnotationReview.Host

/-- A media type without its parameters, in lower case. -/
structure MediaType where
  type : String
  /-- The subtype up to its last plus sign. -/
  subtype : String
  suffix? : Option String
deriving DecidableEq, Repr

namespace MediaType

/-- A character of a token. -/
def isTokenChar (c : Char) : Bool :=
  c.isAlphanum || "!#$%&'*+-.^_\x60|~".toList.contains c

/-- A character inside a quoted value. -/
def isQuotedChar (c : Char) : Bool :=
  32 ≤ c.toNat && c.toNat != 127

/-- The value of a parameter behind its equals sign, and what is left behind the semicolon that
ends it.  A quoted value has at least one character and may be followed by spaces. -/
def dropValue? (cs : List Char) : Option (List Char) :=
  match cs with
  | '"' :: first :: quoted =>
    if isQuotedChar first then
      match quoted.dropWhile fun c => isQuotedChar c && c != '"' with
      | '"' :: rest =>
        match rest.dropWhile (· == ' ') with
        | [] => some []
        | ';' :: more => some more
        | _ => none
      | _ => none
    else none
  | cs =>
    match cs.takeWhile isTokenChar, cs.dropWhile isTokenChar with
    | _, [] => some []
    | _ :: _, ';' :: more => some more
    | _, _ => none

/-- The parameters are well formed.  Each takes a character, so the length of the text bounds
their number. -/
def areParameters : Nat → List Char → Bool
  | _, [] => true
  | 0, _ => false
  | rounds + 1, cs =>
    let cs := cs.dropWhile (· == ' ')
    if cs.isEmpty then true
    else
      match cs.takeWhile isTokenChar, cs.dropWhile isTokenChar with
      | _ :: _, '=' :: value =>
        match dropValue? value with
        | some more => areParameters rounds more
        | none => false
      | _, _ => false

/-- The subtype and the suffix of a token. -/
def splitSuffix (token : List Char) : List Char × Option (List Char) :=
  match token with
  | [] => ([], none)
  | first :: more =>
    let suffix := (more.reverse.takeWhile (· != '+')).reverse
    if more.contains '+' then (first :: more.take (more.length - suffix.length - 1), some suffix)
    else (token, none)

/-- The media type that a text names. -/
def parse? (text : String) : Option MediaType :=
  let cs := text.toList.map Char.toLower
  match cs.takeWhile isTokenChar, cs.dropWhile isTokenChar with
  | [], _ => none
  | type, '/' :: rest =>
    let subtype := rest.takeWhile isTokenChar
    let wellFormed := match rest.dropWhile isTokenChar with
      | [] => true
      | ';' :: parameters => !subtype.isEmpty && areParameters parameters.length parameters
      | _ => false
    if wellFormed then
      let (base, suffix?) := splitSuffix subtype
      some ⟨String.ofList type, String.ofList base, suffix?.map String.ofList⟩
    else none
  | _, _ => none

/-- The media type is JSON or built on it. -/
def isJson (type : MediaType) : Bool :=
  type.type == "application" && (type.subtype == "json" || type.suffix? == some "json")

end MediaType

end AnnotationReview.Host
