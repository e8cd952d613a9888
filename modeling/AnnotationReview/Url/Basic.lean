import AnnotationReview.Url.Authority
import AnnotationReview.Url.Form

/-!
# Absolute URLs

A URL is kept in parts, each in its usual form: scheme and host in lower case, a default port left
out, `.` and `..` segments resolved, and each part percent-encoded where it has to be.
-/

namespace AnnotationReview

/-- An absolute URL, each part as it is written. -/
structure Url where
  scheme : String
  /-- `none` if there is no `//` part. -/
  authority? : Option Url.Authority
  path : String
  query? : Option String
  fragment? : Option String
deriving DecidableEq, Repr

namespace Url

/-- The host; empty if there is none. -/
def host (url : Url) : String :=
  match url.authority? with
  | some authority => authority.host
  | none => ""

/-- There is a host to connect to. -/
def hasHost (url : Url) : Bool :=
  !url.host.isEmpty

/-- The URL as a text. -/
def toText (url : Url) : String :=
  let authority := match url.authority? with
    | some authority => "//" ++ authority.toText
    | none => if url.path.startsWith "//" then "/." else ""
  let query := match url.query? with
    | some query => "?" ++ query
    | none => ""
  let fragment := match url.fragment? with
    | some fragment => "#" ++ fragment
    | none => ""
  url.scheme ++ ":" ++ authority ++ url.path ++ query ++ fragment

/-- What a request for the URL asks the server for: path and query. -/
def target (url : Url) : String :=
  match url.query? with
  | some query => url.path ++ "?" ++ query
  | none => url.path

/-- Adds parameters behind those the URL has. -/
def addParameters (url : Url) (parameters : List Parameter) : Url :=
  if parameters.isEmpty then url
  else
    let more := String.ofList (writeParameters parameters)
    { url with query? := some <| match url.query? with
      | some query => if query.isEmpty then more else query ++ "&" ++ more
      | none => more }

/-- Takes out a user name and a password that a server can be told otherwise than by the URL. -/
def withoutUser (url : Url) : Url :=
  { url with authority? := url.authority?.map fun authority =>
      if authority.user.isReadable then { authority with user := .empty } else authority }

/-- The length that the URL of a request may have, in bytes. -/
def longestRequest : Nat := 65534

/-- A server can be asked for the URL: it is one of the web, is not too long, and its host has none
of the signs that a domain may contain but a request may not. -/
def isRequestable (url : Url) : Bool :=
  (url.scheme == "http" || url.scheme == "https") &&
    url.toText.utf8ByteSize ≤ longestRequest &&
    !url.host.toList.any fun c => "\"\x60\x7b\x7d".toList.contains c

end Url

end AnnotationReview
