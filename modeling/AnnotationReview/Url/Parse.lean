import AnnotationReview.Url.Basic
import AnnotationReview.Url.Path

/-!
# Reading URLs

`Url.parse?` reads an absolute URL.  A scheme comes first; a fragment begins at the first `#` and a
query at the first `?` before it.  What is left holds authority and path, which are divided
according to the kind of the scheme.
-/

namespace AnnotationReview.Url

/-- A text and what stands behind the first occurrence of a character in it. -/
def splitAt (separator : Char) (cs : List Char) : List Char × Option (List Char) :=
  match Text.splitFirst? separator cs with
  | some (front, back) => (front, some back)
  | none => (cs, none)

/-- An authority, if there is one, and a path. -/
abbrev Place := Option Authority × String

/-! ## Files -/

/-- Where a file is: on a drive, or else on a host, whose name is empty for the own machine. -/
def filePlace (host : String) (segments : List (List Char)) : Place :=
  match nameDrive? segments with
  | some segments => (some ⟨.empty, "", none⟩, writeFilePath segments)
  | none => (some ⟨.empty, host, none⟩, writeFilePath segments)

/-- Where a file is whose host, if any, stands at the beginning of the text.  A drive is no host,
and the name of the own machine is as good as none. -/
def hostedFilePlace? (cs : List Char) : Option Place := do
  let host := cs.takeWhile fun c => !endsAuthority .file c
  let path := cs.dropWhile fun c => !endsAuthority .file c
  if isDrive host then return filePlace "" (pathSegments .file cs)
  else
    let host ← if host.isEmpty then some "" else readHost? .file host
    if host.isEmpty ∨ host = "localhost" then return filePlace "" (pathSegments .file path)
    else return filePlace host (pathSegments .file (dropSlash .file path))

/-! ## The whole -/

/-- Where a URL with a scheme of some kind leads; the text holds neither query nor fragment. -/
def place? (kind : SchemeKind) (cs : List Char) : Option Place :=
  match kind with
  | .special _ => do
    let (authority, path) ← Authority.read? kind (cs.dropWhile fun c => c == '/' || c == '\\')
    return (some authority, hostPath kind path)
  | .file =>
    match unifySlashes .file (cs.take 2) with
    | ['/', '/'] => hostedFilePlace? (cs.drop 2)
    | _ => some (filePlace "" (pathSegments .file (dropSlash .file cs)))
  | .other =>
    match cs with
    | '/' :: '/' :: rest => do
      let (authority, path) ← Authority.read? kind rest
      return (some authority, hostPath kind path)
    | '/' :: path => some (none, writePath (pathSegments kind path))
    | path => some (none, String.ofList (percentEncode keptInOpaquePath path))

/-- Drops controls and spaces at both ends, and tabs and line ends everywhere. -/
def clean (cs : List Char) : List Char :=
  let blank (c : Char) : Bool := c.toNat ≤ 32
  let inner := ((cs.dropWhile blank).reverse.dropWhile blank).reverse
  inner.filter fun c => c != '\t' && c != '\n' && c != '\r'

/-- The URL that a text denotes without reference to another one. -/
def parse? (text : String) : Option Url := do
  let (scheme, rest) ← splitScheme? (clean text.toList)
  let (front, fragment?) := splitAt '#' rest
  let (front, query?) := splitAt '?' front
  let kind := SchemeKind.of scheme
  let (authority?, path) ← place? kind front
  return {
    scheme
    authority?
    path
    query? := query?.map fun q => String.ofList (percentEncode (keptInQuery kind.isSpecial) q)
    fragment? := fragment?.map fun f => String.ofList (percentEncode keptInFragment f) }

end AnnotationReview.Url
