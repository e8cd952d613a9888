/-!
# Escaping text for markup

Five characters could end a text or a quoted attribute value, or start an entity.  `escape`
replaces each of them by an entity, character by character, so it never looks at neighbours;
`unescape` reads the five entities back.
-/

namespace AnnotationReview.Markup

/-- One character as it stands in markup. -/
def escapeChar (c : Char) : List Char :=
  if c = '&' then "&amp;".toList
  else if c = '<' then "&lt;".toList
  else if c = '>' then "&gt;".toList
  else if c = '"' then "&quot;".toList
  else if c = '\'' then "&#39;".toList
  else [c]

/-- A text as it stands in markup. -/
def escapeChars (cs : List Char) : List Char :=
  cs.flatMap escapeChar

theorem escapeChars_append (as bs : List Char) :
    escapeChars (as ++ bs) = escapeChars as ++ escapeChars bs :=
  List.flatMap_append

/-- A text as it stands in markup, in text and in attribute values alike. -/
def escape (text : String) : String :=
  String.ofList (escapeChars text.toList)

/-- Reads the five entities back; an ampersand that starts none of them stands for itself. -/
def unescape : List Char → List Char
  | '&' :: 'a' :: 'm' :: 'p' :: ';' :: cs => '&' :: unescape cs
  | '&' :: 'l' :: 't' :: ';' :: cs => '<' :: unescape cs
  | '&' :: 'g' :: 't' :: ';' :: cs => '>' :: unescape cs
  | '&' :: 'q' :: 'u' :: 'o' :: 't' :: ';' :: cs => '"' :: unescape cs
  | '&' :: '#' :: '3' :: '9' :: ';' :: cs => '\'' :: unescape cs
  | c :: cs => c :: unescape cs
  | [] => []

end AnnotationReview.Markup
