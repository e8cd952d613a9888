import AnnotationReview.Text.Split
import AnnotationReview.Url.Percent
import AnnotationReview.Url.Scheme

/-!
# Paths

A path consists of segments with slashes between them.  A segment `.` stands for the place where
it is and `..` for the place above, which is the place itself at the root and on a drive: a letter
with a colon or a bar behind it.  In the path of a file a drive at the beginning takes the place
of the host.
-/

namespace AnnotationReview.Url

/-- The segment stands for the place where it is. -/
def isSingleDot (segment : List Char) : Bool :=
  [".", "%2e"].contains (String.ofList (segment.map Char.toLower))

/-- The segment stands for the place above. -/
def isDoubleDot (segment : List Char) : Bool :=
  ["..", ".%2e", "%2e.", "%2e%2e"].contains (String.ofList (segment.map Char.toLower))

/-- The segment is the name of a drive. -/
def isDrive : List Char → Bool
  | [letter, mark] => letter.isAlpha && (mark == ':' || mark == '|')
  | _ => false

/-- The segment begins with the name of a drive that ends there or at a backslash. -/
def isOnDrive (segment : List Char) : Bool :=
  isDrive (segment.take 2) && ((segment.drop 2).head?.all (· == '\\'))

/-- The place above another one, both with the last segment first. -/
def placeAbove : List (List Char) → List (List Char)
  | [] => []
  | segment :: above => if isOnDrive segment then segment :: above else above

/-- Resolves dots from the front; the segments so far are kept last one first.  A dot segment at
the end leaves an empty segment. -/
def resolveDots (done : List (List Char)) : List (List Char) → List (List Char)
  | [] => done.reverse
  | segment :: more =>
    let isLast := more.isEmpty
    if isDoubleDot segment then
      resolveDots (if isLast then [] :: placeAbove done else placeAbove done) more
    else if isSingleDot segment then resolveDots (if isLast then [] :: done else done) more
    else resolveDots (percentEncode keptInPath segment :: done) more

/-- Every slash, and every backslash if the scheme takes it for one, as a slash. -/
def unifySlashes (kind : SchemeKind) (cs : List Char) : List Char :=
  if kind.isSpecial then cs.map fun c => if c = '\\' then '/' else c else cs

/-- The segments of a path behind its first slash, in their usual form. -/
def pathSegments (kind : SchemeKind) (cs : List Char) : List (List Char) :=
  resolveDots [] (Text.splitOn '/' (unifySlashes kind cs))

/-- Segments as a path. -/
def writePath (segments : List (List Char)) : String :=
  String.ofList ('/' :: "/".toList.intercalate segments)

/-- Drops one slash at the beginning. -/
def dropSlash (kind : SchemeKind) : List Char → List Char
  | '/' :: cs => cs
  | '\\' :: cs => if kind.isSpecial then cs else '\\' :: cs
  | cs => cs

/-- A path behind a host. -/
def hostPath (kind : SchemeKind) (cs : List Char) : String :=
  if cs.isEmpty ∧ !kind.isSpecial then ""
  else writePath (pathSegments kind (dropSlash kind cs))

/-! ## Files -/

/-- The segments of a path that begins with a drive, whose name then ends in a colon; `none` for
any other path. -/
def nameDrive? : List (List Char) → Option (List (List Char))
  | [letter, mark] :: more => if isDrive [letter, mark] then some ([letter, ':'] :: more) else none
  | _ => none

/-- The path of a file, which has one slash at its beginning. -/
def writeFilePath (segments : List (List Char)) : String :=
  String.ofList ('/' :: ("/".toList.intercalate segments).dropWhile (· == '/'))

end AnnotationReview.Url
