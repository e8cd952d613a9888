import AnnotationReview.Text.Utf8

/-!
# Values of header fields

Any byte may stand in the value of a header field except the controls other than the tab.  A value
is readable as text only if it holds nothing but visible ASCII, spaces and tabs.
-/

namespace AnnotationReview.Text

/-- The byte may stand in a header value. -/
def isHeaderByte (b : UInt8) : Bool :=
  b == 9 || (32 ≤ b && b != 127)

/-- The text may be the value of a header field. -/
def isHeaderValue (text : String) : Bool :=
  (encode text).all isHeaderByte

/-- A character of a header value that is readable as text. -/
def isReadableChar (c : Char) : Bool :=
  c.toNat == 9 || (32 ≤ c.toNat && c.toNat < 127)

/-- The header value is readable as text. -/
def isReadable (value : String) : Bool :=
  value.toList.all isReadableChar

end AnnotationReview.Text
