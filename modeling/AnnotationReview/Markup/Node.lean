import AnnotationReview.Markup.Escape

/-!
# Markup as a tree

A page fragment is a tree of elements, text and entities.  Only `Node.write` turns it into
characters, and it escapes every text and every attribute value on the way, so whatever a
viewer typed stays inside the place where the tree put it.
-/

namespace AnnotationReview.Markup

/-- An attribute of an element; one without a value is a flag. -/
structure Attribute where
  name : String
  value? : Option String
deriving DecidableEq, Repr

/-- A piece of markup. -/
inductive Node where
  | text (content : String)
  /-- A character given by its entity name. -/
  | entity (name : String)
  | element (tag : String) (attributes : List Attribute) (children : List Node)
  /-- An element that has no content and no closing tag. -/
  | void (tag : String) (attributes : List Attribute)
deriving Repr

/-- An attribute with the space before it. -/
def Attribute.write (a : Attribute) : List Char :=
  ' ' :: a.name.toList ++
    match a.value? with
    | some value => '=' :: '"' :: escapeChars value.toList ++ ['"']
    | none => []

/-- The opening tag of an element. -/
def writeOpening (tag : String) (attributes : List Attribute) : List Char :=
  '<' :: tag.toList ++ attributes.flatMap Attribute.write ++ ['>']

/-- The closing tag of an element. -/
def writeClosing (tag : String) : List Char :=
  '<' :: '/' :: tag.toList ++ ['>']

mutual

/-- The characters of a piece of markup. -/
def Node.write : Node → List Char
  | .text content => escapeChars content.toList
  | .entity name => '&' :: name.toList ++ [';']
  | .element tag attributes children =>
    writeOpening tag attributes ++ Node.writeAll children ++ writeClosing tag
  | .void tag attributes => writeOpening tag attributes

/-- The characters of several pieces, one after the other. -/
def Node.writeAll : List Node → List Char
  | [] => []
  | node :: nodes => node.write ++ Node.writeAll nodes

end

/-- The text of a piece of markup. -/
def Node.toText (node : Node) : String :=
  String.ofList node.write

end AnnotationReview.Markup
