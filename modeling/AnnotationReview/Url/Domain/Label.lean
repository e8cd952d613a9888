import AnnotationReview.Text.Split
import AnnotationReview.Unicode.Direction
import AnnotationReview.Unicode.Joining
import AnnotationReview.Unicode.Mark
import AnnotationReview.Unicode.Normal
import AnnotationReview.Url.Domain.Mapping
import AnnotationReview.Url.Punycode

/-!
# Labels of domain names

A domain name is a sequence of labels.  Each label has a text, as it is read, and an ASCII form, as
it is looked up; the ASCII form of a label outside ASCII begins with `xn--`.  A label that is
given in that form is read back and held to the same rules as one given as a text: it may not
begin with a mark, invisible joiners may only stand where they make a difference, and if any label
is written from right to left, no label may mix the directions.
-/

namespace AnnotationReview.Url.Domain

/-- A label as it is read and as it is looked up. -/
structure Label where
  text : List Char
  ascii : List Char
deriving DecidableEq, Repr

/-- The mark of a label in ASCII form. -/
def encodedMark : List Char := "xn--".toList

/-- The character is in ASCII. -/
def isAscii (c : Char) : Bool := c.toNat < 128

/-- A character that no domain may contain. -/
def isForbidden (c : Char) : Bool :=
  c.toNat ≤ 32 || c.toNat == 127 || "#/:<>?@[\\]^|%".toList.contains c

/-! ## Joiners -/

/-- Makes its neighbours join or keeps them from it, without being seen. -/
def isJoiner (c : Char) : Bool := c == '\u200C' || c == '\u200D'

/-- The joiner makes a difference where it stands: behind a sign that suppresses a vowel or, if it
separates, between two letters that would join.  `before` is what stands before it, the last
character first. -/
def joinerFits (joiner : Char) (before after : List Char) : Bool :=
  let skip (cs : List Char) := cs.dropWhile (Unicode.Joining.of · == .transparent)
  match before with
  | [] => false
  | last :: _ =>
    Unicode.combiningClass last == 9 ||
      (joiner == '\u200C' && (skip before).head?.any Unicode.joinsLeft &&
        (skip after).head?.any Unicode.joinsRight)

/-- All joiners make a difference. -/
def joinersFit (before : List Char) : List Char → Bool
  | [] => true
  | c :: after => (!isJoiner c || joinerFits c before after) && joinersFit (c :: before) after

/-! ## Directions -/

/-- The directions make a label written from left to right: it holds no letter and no digit of the
other direction and, marks aside, ends in a letter or a digit. -/
def runsLeft (label : List Unicode.Direction) : Bool :=
  label.all (fun d => d == .left || d == .europeanNumber || d == .neutral || d == .mark) &&
    (label.reverse.dropWhile (· == .mark)).head?.any fun d => d == .left || d == .europeanNumber

/-- The directions make a label written from right to left: the same the other way round, and its
digits are of one kind. -/
def runsRight (label : List Unicode.Direction) : Bool :=
  label.all (fun d => d != .left && d != .formatting) &&
    ((label.reverse.dropWhile (· == .mark)).head?.any fun d =>
      d == .right || d == .europeanNumber || d == .arabicNumber) &&
    !(label.contains .europeanNumber && label.contains .arabicNumber)

/-- The label keeps to the direction of its first character. -/
def keepsDirection (label : List Char) : Bool :=
  match label.map Unicode.Direction.of with
  | [] => true
  | .left :: rest => runsLeft (.left :: rest)
  | .right :: rest => runsRight (.right :: rest)
  | .arabicNumber :: rest => runsRight (.arabicNumber :: rest)
  | _ => false

/-- The character is written from right to left. -/
def runsFromRight (c : Char) : Bool :=
  Unicode.Direction.of c == .right || Unicode.Direction.of c == .arabicNumber

/-! ## Reading a label -/

/-- A text outside ASCII may be a label. -/
def isWordLike (text : List Char) : Bool :=
  !text.head?.any Unicode.isMark && joinersFit [] text

/-- The length that the writing of a label may have. -/
def longestEncoded : Nat := 2000

/-- The length that a label outside ASCII may have. -/
def longestText : Nat := 1000

/-- The characters can follow the mark of a label in ASCII form. -/
def isEncoded (cs : List Char) : Bool :=
  cs.all isAscii && cs.length ≤ longestEncoded && !cs.isEmpty && cs.getLast? != some '-'

/-- The text of a label in ASCII form, given without its mark.  It has to be a text that is mapped
to itself: its characters are kept, it is in composed normal form, is one label and has no such
mark of its own. -/
def readBack? (encoded : List Char) : Option (List Char) := do
  let text ← if isEncoded encoded then Punycode.decode? encoded else none
  let isMapped := text.all isKept && Unicode.normalize text == text && !text.contains '.' &&
    !encodedMark.isPrefixOf text
  if isMapped then some text else none

namespace Label

/-- The label that a mapped text stands for. -/
def read? (mapped : List Char) : Option Label :=
  if encodedMark.isPrefixOf mapped then do
    let text ← readBack? (mapped.drop encodedMark.length)
    if isWordLike text then some ⟨text, mapped⟩ else none
  else if mapped.all isAscii then some ⟨mapped, mapped⟩
  else if isWordLike mapped ∧ mapped.length ≤ longestText then
    some ⟨mapped, encodedMark ++ Punycode.encode mapped⟩
  else none

end Label

end AnnotationReview.Url.Domain
