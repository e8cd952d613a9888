/-!
# Schemes

A URL begins with a scheme, which decides how the rest of it is read.
-/

namespace AnnotationReview.Url

/-- How the rest of a URL is read. -/
inductive SchemeKind where
  /-- A host is required, and backslashes count as slashes. -/
  | special (defaultPort : Nat)
  /-- The host may be missing, and backslashes count as slashes. -/
  | file
  | other
deriving DecidableEq, Repr

namespace SchemeKind

/-- The kind of a scheme. -/
def of : String → SchemeKind
  | "http" | "ws" => .special 80
  | "https" | "wss" => .special 443
  | "ftp" => .special 21
  | "file" => .file
  | _ => .other

/-- Backslashes count as slashes. -/
def isSpecial : SchemeKind → Bool
  | .other => false
  | _ => true

/-- The port that need not be told. -/
def defaultPort? : SchemeKind → Option Nat
  | .special port => some port
  | _ => none

end SchemeKind

/-- A character of a scheme behind its first one. -/
def isSchemeChar (c : Char) : Bool :=
  c.isAlphanum || c == '+' || c == '-' || c == '.'

/-- The scheme and what is left behind its colon. -/
def splitScheme? (cs : List Char) : Option (String × List Char) :=
  match cs.takeWhile isSchemeChar, cs.dropWhile isSchemeChar with
  | first :: name, ':' :: rest =>
    if first.isAlpha then some (String.ofList ((first :: name).map Char.toLower), rest) else none
  | _, _ => none

end AnnotationReview.Url
