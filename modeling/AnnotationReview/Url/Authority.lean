import AnnotationReview.Url.Host

/-!
# Authorities

The authority of a URL stands behind its two slashes: a user name and a password, up to the last
`@`, then a host and a port.  A host may be left out where the scheme does not require one, but
then nothing else may be told of it.
-/

namespace AnnotationReview.Url

/-- A user name and a password as they are written; both are empty if they are not given. -/
structure UserInfo where
  name : String
  password : String
deriving DecidableEq, Repr

namespace UserInfo

/-- Nothing is given. -/
def empty : UserInfo := ⟨"", ""⟩

/-- A user name and, behind the first colon, a password. -/
def read (cs : List Char) : UserInfo :=
  let (name, password) := (Text.splitFirst? ':' cs).getD (cs, [])
  ⟨String.ofList (percentEncode keptInUserInfo name),
    String.ofList (percentEncode keptInUserInfo password)⟩

/-- Name and password as they stand before a host. -/
def toText (user : UserInfo) : String :=
  if user = .empty then ""
  else user.name ++ (if user.password.isEmpty then "" else ":" ++ user.password) ++ "@"

/-- The text that a part stands for. -/
def plainText? (part : String) : Option String :=
  Text.decode? (percentDecode (Text.encode part))

/-- The name and the password, if given, can be told to a server: they stand for texts, as far as
they are needed. -/
def isReadable (user : UserInfo) : Bool :=
  match plainText? user.name with
  | none => false
  | some name => !name.isEmpty || (!user.password.isEmpty && (plainText? user.password).isSome)

end UserInfo

/-- The place of a resource on the net. -/
structure Authority where
  user : UserInfo
  /-- Empty if there is none. -/
  host : String
  port? : Option Nat
deriving DecidableEq, Repr

/-- A character that ends an authority. -/
def endsAuthority (kind : SchemeKind) (c : Char) : Bool :=
  c == '/' || (kind.isSpecial && c == '\\')

/-- What stands before and behind the last `@`. -/
def splitUser? (authority : List Char) : Option (List Char × List Char) :=
  (Text.splitFirst? '@' authority.reverse).map fun (back, front) => (front.reverse, back.reverse)

/-- Divides host and port at the first colon outside brackets. -/
def splitPort (inBrackets : Bool) : List Char → List Char × Option (List Char)
  | [] => ([], none)
  | c :: cs =>
    if c = ':' ∧ !inBrackets then ([], some cs)
    else
      let inside := if c = '[' then true else if c = ']' then false else inBrackets
      let (host, port) := splitPort inside cs
      (c :: host, port)

/-- The port behind a colon; the default one and a missing one are left out. -/
def readPort? (defaultPort? : Option Nat) (cs : List Char) : Option (Option Nat) :=
  if !cs.all Char.isDigit then none
  else if cs.isEmpty then some none
  else do
    let n ← numberIn? 10 cs
    if 65535 < n then none
    else some (if some n = defaultPort? then none else some n)

namespace Authority

/-- The authority as it stands before a path. -/
def toText (authority : Authority) : String :=
  authority.user.toText ++ authority.host ++
    match authority.port? with
    | some port => ":" ++ toString port
    | none => ""

/-- Host and port behind the user.  The host may be empty only if it is not required and neither
user nor port belong to it. -/
def ofParts? (kind : SchemeKind) (user : UserInfo) (host : List Char)
    (port? : Option (List Char)) : Option Authority := do
  let host ← readHost? kind host
  if host.isEmpty ∧ (kind.isSpecial ∨ user ≠ .empty ∨ port?.isSome) then none
  else match port? with
    | none => return ⟨user, host, none⟩
    | some port => return ⟨user, host, ← readPort? kind.defaultPort? port⟩

/-- The authority at the beginning of a text, and the path behind it.  A backslash behind a port
belongs to the path whatever the scheme. -/
def read? (kind : SchemeKind) (cs : List Char) : Option (Authority × List Char) := do
  let text := cs.takeWhile fun c => !endsAuthority kind c
  let path := cs.dropWhile fun c => !endsAuthority kind c
  let (user, place) ← match splitUser? text with
    | none => some (.empty, text)
    | some ([], []) => none
    | some (user, place) => some (.read user, place)
  let (host, port?) := splitPort false place
  let authority ← ofParts? kind user host (port?.map (·.takeWhile (· ≠ '\\')))
  return (authority, (port?.getD []).dropWhile (· ≠ '\\') ++ path)

end Authority

end AnnotationReview.Url
