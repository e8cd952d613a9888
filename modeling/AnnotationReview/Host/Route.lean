import AnnotationReview.Text.Split
import AnnotationReview.Url.Scheme

/-!
# Resources of the host

A path names a resource literally, segment by segment and with regard to case; a query behind it
and a scheme and an authority before it do not matter.  Names of annotations and indices stand in
segments of their own and are kept here as they were sent.  A segment at the end may not be empty,
one in the middle may.
-/

namespace AnnotationReview.Host

/-- What can be done to an entry. -/
inductive EntryVerb where
  | reject
  | accept
  | retract
  | refresh
deriving DecidableEq, Repr

/-- What a path can name. -/
inductive Resource where
  | health
  | annotations
  | mounted (id : String)
  | markup (id : String)
  | edit (id : String)
  | notice (id : String)
  | entry (id index : String) (verb : EntryVerb)
deriving DecidableEq, Repr

/-- The verb that a segment names. -/
def EntryVerb.ofName? : String → Option EntryVerb
  | "reject" => some .reject
  | "accept" => some .accept
  | "retract" => some .retract
  | "refresh" => some .refresh
  | _ => none

namespace Resource

/-- The resource that the segments of a path name. -/
def ofSegments? : List String → Option Resource
  | ["health"] => some .health
  | ["api", "v1", "annotations"] => some .annotations
  | ["api", "v1", "annotations", id] => if id.isEmpty then none else some (.mounted id)
  | ["api", "v1", "annotations", id, "html"] => some (.markup id)
  | ["api", "v1", "annotations", id, "edit"] => some (.edit id)
  | ["api", "v1", "annotations", id, "notice"] => some (.notice id)
  | ["api", "v1", "annotations", id, "entries", index, verb] =>
    (EntryVerb.ofName? verb).map (.entry id index)
  | _ => none

/-- What stands behind scheme and authority; the whole if there are none. -/
def dropAuthority (target : List Char) : List Char :=
  match target.dropWhile Url.isSchemeChar with
  | ':' :: '/' :: '/' :: rest => rest.dropWhile fun c => c != '/' && c != '?' && c != '#'
  | _ => target

/-- The resource that a path names. -/
def ofPath? (path : String) : Option Resource :=
  match (dropAuthority path.toList).takeWhile fun c => c != '?' && c != '#' with
  | '/' :: cs => ofSegments? ((Text.splitOn '/' cs).map String.ofList)
  | _ => none

/-- The methods a resource takes, in the order in which they are told. -/
def methods : Resource → List String
  | .health | .markup _ => ["GET", "HEAD"]
  | .annotations => ["POST"]
  | .mounted _ => ["GET", "HEAD", "DELETE"]
  | .edit _ | .entry _ _ .reject => ["POST", "PUT", "DELETE"]
  | .notice _ => ["DELETE"]
  | .entry _ _ _ => ["POST"]

end Resource

end AnnotationReview.Host
