import AnnotationReview.Markup.Node
import AnnotationReview.Proofs.Markup.Token

/-!
# A tree and its tokens

A tree of markup is written as a list of tokens in the order of its nodes, texts and attribute
values escaped.  If its names are names, what is written is read back as just these tokens
(`Node.scan_write`): their tags are those of the tree (`Node.shapes`), whatever its texts and values
are, and with the entities read back they hold the texts and values of the tree (`Node.slots`).
-/

namespace AnnotationReview.Markup

open Token (IsName Shape)

/-- An attribute of a token, its value put into another form. -/
def Attribute.token (form : List Char → List Char) (a : Attribute) :
    List Char × Option (List Char) :=
  (a.name.toList, a.value?.map fun value => form value.toList)

mutual

/-- The tokens of a piece of markup, its texts and attribute values put into another form. -/
def Node.tokens (form : List Char → List Char) : Node → List Token
  | .text content => [.text (form content.toList)]
  | .entity name => [.text ('&' :: name.toList ++ [';'])]
  | .element tag attributes children =>
    .opening tag.toList (attributes.map (Attribute.token form)) ::
      (Node.tokensAll form children ++ [.closing tag.toList])
  | .void tag attributes => [.opening tag.toList (attributes.map (Attribute.token form))]

/-- The tokens of several pieces, one after the other. -/
def Node.tokensAll (form : List Char → List Char) : List Node → List Token
  | [] => []
  | node :: nodes => node.tokens form ++ Node.tokensAll form nodes

end

mutual

/-- Every tag and attribute goes by a name, and an entity is none of the five that stand for a
character of an escaped text. -/
def Node.Legal : Node → Prop
  | .text _ => True
  | .entity name =>
    '<' ∉ name.toList ∧ ReadsAs ('&' :: name.toList ++ [';']) ('&' :: name.toList ++ [';'])
  | .element tag attributes children =>
    IsName tag.toList ∧ (∀ a ∈ attributes, IsName a.name.toList) ∧ Node.AllLegal children
  | .void tag attributes => IsName tag.toList ∧ ∀ a ∈ attributes, IsName a.name.toList

/-- Several pieces are legal. -/
def Node.AllLegal : List Node → Prop
  | [] => True
  | node :: nodes => node.Legal ∧ Node.AllLegal nodes

end

/-- The tokens of a piece of markup as it stands in the tree: the texts and values themselves, not
as they are written. -/
def Node.slots (node : Node) : List Token :=
  Token.join (node.tokens id)

/-- The tags of a piece of markup without the values of their attributes. -/
def Node.shapes (node : Node) : List Shape :=
  (node.tokens id).filterMap Token.shape?

/-- The tags of several pieces. -/
def Node.shapesAll (nodes : List Node) : List Shape :=
  (Node.tokensAll id nodes).filterMap Token.shape?

namespace Node

/-! ## Writing -/

lemma write_attribute (a : Attribute) :
    a.write = Token.writeAttribute (a.token escapeChars) := by
  obtain ⟨name, _ | value⟩ := a
  · exact List.append_nil _
  · simp [Attribute.write, Attribute.token, Token.writeAttribute]

lemma writeOpening_eq (tag : String) (attributes : List Attribute) :
    writeOpening tag attributes =
      (Token.opening tag.toList (attributes.map (Attribute.token escapeChars))).write := by
  have hattributes : attributes.flatMap Attribute.write =
      (attributes.map (Attribute.token escapeChars)).flatMap Token.writeAttribute := by
    rw [List.flatMap_map]
    exact congrArg (attributes.flatMap ·) (funext write_attribute)
  rw [writeOpening, hattributes]
  rfl

mutual

lemma write_eq : ∀ node : Node, node.write = (node.tokens escapeChars).flatMap Token.write
  | .text content => by simp [Node.write, Node.tokens, Token.write]
  | .entity name => by simp [Node.write, Node.tokens, Token.write]
  | .element tag attributes children => by
    have hchildren := writeAll_eq children
    simp [Node.write, Node.tokens, writeOpening_eq, writeClosing, hchildren, Token.write]
  | .void tag attributes => by simp [Node.write, Node.tokens, writeOpening_eq]

lemma writeAll_eq : ∀ nodes : List Node,
    writeAll nodes = (tokensAll escapeChars nodes).flatMap Token.write
  | [] => rfl
  | node :: nodes => by
    rw [writeAll, tokensAll, List.flatMap_append, write_eq node, writeAll_eq nodes]

end

/-! ## Reading back -/

lemma legal_opening {tag : String} {attributes : List Attribute} (htag : IsName tag.toList)
    (hnames : ∀ a ∈ attributes, IsName a.name.toList) :
    (Token.opening tag.toList (attributes.map (Attribute.token escapeChars))).Legal := by
  refine .opening htag ?_ ?_
  · intro a hmem
    obtain ⟨original, horiginal, rfl⟩ := List.mem_map.mp hmem
    exact hnames original horiginal
  · intro a hmem value hvalue
    obtain ⟨original, -, rfl⟩ := List.mem_map.mp hmem
    obtain ⟨content, -, rfl⟩ := Option.map_eq_some_iff.mp hvalue
    exact not_mem_escapeChars content.toList (by simp [delimiters])

mutual

lemma legal_tokens : ∀ node : Node, node.Legal → ∀ token ∈ node.tokens escapeChars, token.Legal
  | .text content, _ => by
    rw [Node.tokens, List.forall_mem_singleton]
    exact .text (not_mem_escapeChars content.toList (by simp [delimiters]))
  | .entity name, hlegal => by
    obtain ⟨hname, -⟩ := hlegal
    rw [Node.tokens, List.forall_mem_singleton]
    exact .text (by simp [hname])
  | .element tag attributes children, hlegal => by
    obtain ⟨htag, hnames, hchildren⟩ := hlegal
    rw [Node.tokens, List.forall_mem_cons, List.forall_mem_append, List.forall_mem_singleton]
    exact ⟨legal_opening htag hnames, legal_tokensAll children hchildren, .closing htag⟩
  | .void tag attributes, hlegal => by
    obtain ⟨htag, hnames⟩ := hlegal
    rw [Node.tokens, List.forall_mem_singleton]
    exact legal_opening htag hnames

lemma legal_tokensAll : ∀ nodes : List Node, AllLegal nodes →
    ∀ token ∈ tokensAll escapeChars nodes, token.Legal
  | [], _ => by simp [tokensAll]
  | node :: nodes, hlegal => by
    obtain ⟨hnode, hnodes⟩ := hlegal
    rw [tokensAll, List.forall_mem_append]
    exact ⟨legal_tokens node hnode, legal_tokensAll nodes hnodes⟩

end

lemma spells_opening (tag : String) (attributes : List Attribute) :
    Token.Spells (.opening tag.toList (attributes.map (Attribute.token escapeChars)))
      (.opening tag.toList (attributes.map (Attribute.token id))) := by
  have hread : attributes.map (Attribute.token id) =
      Token.unescapedAttributes (attributes.map (Attribute.token escapeChars)) := by
    rw [Token.unescapedAttributes, List.map_map]
    refine List.map_congr_left fun a _ => ?_
    obtain ⟨name, _ | value⟩ := a
    · rfl
    · simp [Attribute.token, (readsAs_escapeChars value.toList).unescape_eq]
  rw [hread]
  exact .opening _ _

mutual

lemma spells_tokens : ∀ node : Node, node.Legal →
    List.Forall₂ Token.Spells (node.tokens escapeChars) (node.tokens id)
  | .text content, _ => .cons (.text (readsAs_escapeChars content.toList)) .nil
  | .entity name, hlegal => .cons (.text hlegal.2) .nil
  | .element tag attributes children, hlegal => by
    obtain ⟨-, -, hchildren⟩ := hlegal
    rw [Node.tokens, Node.tokens]
    refine .cons (spells_opening tag attributes) ?_
    exact List.rel_append (spells_tokensAll children hchildren) (.cons (.closing _) .nil)
  | .void tag attributes, _ => .cons (spells_opening tag attributes) .nil

lemma spells_tokensAll : ∀ nodes : List Node, AllLegal nodes →
    List.Forall₂ Token.Spells (tokensAll escapeChars nodes) (tokensAll id nodes)
  | [], _ => .nil
  | node :: nodes, hlegal => by
    obtain ⟨hnode, hnodes⟩ := hlegal
    rw [tokensAll, tokensAll]
    exact List.rel_append (spells_tokens node hnode) (spells_tokensAll nodes hnodes)

end

/-! ## Shapes -/

lemma shape_opening (form : List Char → List Char) (tag : String) (attributes : List Attribute) :
    Token.shape? (.opening tag.toList (attributes.map (Attribute.token form))) =
      some (.opening tag.toList
        (attributes.map fun a => (a.name.toList, a.value?.isSome))) := by
  simp [Token.shape?, Attribute.token]

mutual

/-- The form of texts and values does not show in the tags. -/
lemma shapes_tokens (form : List Char → List Char) : ∀ node : Node,
    (node.tokens form).filterMap Token.shape? = node.shapes
  | .text content => rfl
  | .entity name => rfl
  | .element tag attributes children => by
    have hchildren := shapes_tokensAll form children
    simp only [Node.shapes, Node.shapesAll, Node.tokens, List.filterMap_cons, shape_opening,
      List.filterMap_append] at hchildren ⊢
    rw [hchildren]
  | .void tag attributes => by
    simp only [Node.shapes, Node.tokens, List.filterMap_cons, shape_opening, List.filterMap_nil]

lemma shapes_tokensAll (form : List Char → List Char) : ∀ nodes : List Node,
    (tokensAll form nodes).filterMap Token.shape? = shapesAll nodes
  | [] => rfl
  | node :: nodes => by
    rw [shapesAll, tokensAll, tokensAll, List.filterMap_append, List.filterMap_append,
      shapes_tokens form node, shapes_tokensAll form nodes]
    rfl

end

/-- Legal markup is read back: its tags are those of the tree, and with the entities read back its
texts and values are. -/
lemma scan_write {node : Node} (hlegal : node.Legal) :
    ∃ tokens, Token.scan node.write = some tokens ∧
      tokens.filterMap Token.shape? = node.shapes ∧
      tokens.map Token.unescaped = node.slots := by
  refine ⟨Token.join (node.tokens escapeChars), ?_, ?_, ?_⟩
  · rw [write_eq]
    exact Token.scan_write (legal_tokens node hlegal)
  · exact (Token.shapes_joinFrom [] _).trans (shapes_tokens escapeChars node)
  · exact Token.unescaped_joinFrom (spells_tokens node hlegal) .nil

/-! ## Several pieces -/

lemma shapesAll_cons (node : Node) (nodes : List Node) :
    shapesAll (node :: nodes) = node.shapes ++ shapesAll nodes := by
  rw [shapesAll, tokensAll, List.filterMap_append]
  rfl

lemma shapesAll_append (front back : List Node) :
    shapesAll (front ++ back) = shapesAll front ++ shapesAll back := by
  induction front with
  | nil => rfl
  | cons node front ih =>
    rw [List.cons_append, shapesAll_cons, ih, shapesAll_cons, List.append_assoc]

lemma shapes_element (tag : String) (attributes : List Attribute) (children : List Node) :
    (Node.element tag attributes children).shapes =
      .opening tag.toList (attributes.map fun a => (a.name.toList, a.value?.isSome)) ::
        (shapesAll children ++ [.closing tag.toList]) := by
  simp only [Node.shapes, Node.shapesAll, Node.tokens, List.filterMap_cons, shape_opening,
    List.filterMap_append]
  rfl

lemma allLegal_append {front back : List Node} :
    AllLegal (front ++ back) ↔ AllLegal front ∧ AllLegal back := by
  induction front with
  | nil => simp [AllLegal]
  | cons node front ih => simp [AllLegal, ih, and_assoc]

lemma allLegal_iff {nodes : List Node} : AllLegal nodes ↔ ∀ node ∈ nodes, node.Legal := by
  induction nodes with
  | nil => simp [AllLegal]
  | cons node nodes ih => simp [AllLegal, ih]

end Node

end AnnotationReview.Markup
