import AnnotationReview.Url.Address
import AnnotationReview.Url.Domain.Basic
import AnnotationReview.Url.Percent
import AnnotationReview.Url.Scheme

/-!
# Hosts

A host is an address or a name.  Where it is looked up, a name is a domain name, and one that ends
in a number is an address; elsewhere a name is any text without the signs that divide a URL.
-/

namespace AnnotationReview.Url

/-- A character that no host may contain, even where it is not looked up. -/
def isForbiddenInHost (c : Char) : Bool :=
  c.toNat == 0 || "\t\n\r #/:<>?@[\\]^|".toList.contains c

/-- The host of a URL whose host is looked up: an address or a domain. -/
def domainHost? (cs : List Char) : Option String :=
  match cs with
  | '[' :: rest =>
    if rest.getLast? = some ']' then
      (ipv6? rest.dropLast).map fun groups => String.ofList (writeIpv6 groups)
    else none
  | cs => do
    let text ← Text.decode? (percentDecode (cs.flatMap String.utf8EncodeChar))
    let domain ← Domain.toAscii? text.toList
    if domain.isEmpty then none
    else if endsInNumber domain then
      (ipv4? domain).map fun address => String.ofList (writeIpv4 address)
    else some (String.ofList domain)

/-- The host of a URL whose host is not looked up. -/
def opaqueHost? (cs : List Char) : Option String :=
  match cs with
  | '[' :: _ => domainHost? cs
  | cs =>
    if cs.any isForbiddenInHost then none
    else some (String.ofList (percentEncode isPrintable cs))

/-- The host of a URL with a scheme of some kind. -/
def readHost? (kind : SchemeKind) (cs : List Char) : Option String :=
  if kind.isSpecial then domainHost? cs else opaqueHost? cs

end AnnotationReview.Url
