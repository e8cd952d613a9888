import AnnotationReview.Proofs.Markup.Annotation

/-!
# The tags of written markup

A reader of a page finds an element by its opening tag: by its name and by what its attributes say
once the entities in their values are read back.  `tags?` gives the opening tags of written markup
in their order, and for legal markup these are the opening tags of the tree (`tags?_toText`), so
that what is said of the tags of a tree is true of the text that is sent.
-/

namespace AnnotationReview.Markup

/-- An opening tag with its attributes. -/
structure Tag where
  name : String
  attributes : List Attribute
deriving DecidableEq, Repr

namespace Tag

/-- The value of an attribute; the first of that name counts. -/
def value? (tag : Tag) (name : String) : Option String :=
  (tag.attributes.find? (·.name == name)).bind Attribute.value?

/-- The tag bears a flag. -/
def flagged (tag : Tag) (name : String) : Bool :=
  tag.attributes.any (·.name == name)

end Tag

/-- The tag of a token in which entities are read back; texts and closing tags have none. -/
def Token.tag? : Token → Option Tag
  | .opening tag attributes =>
    some ⟨String.ofList tag, attributes.map fun a => ⟨String.ofList a.1, a.2.map String.ofList⟩⟩
  | .text _ => none
  | .closing _ => none

/-- The opening tags of written markup; `none` if a tag is malformed or left open. -/
def tags? (markup : String) : Option (List Tag) :=
  (Token.scan markup.toList).map fun tokens => (tokens.map Token.unescaped).filterMap Token.tag?

mutual

/-- The opening tags of a piece of markup. -/
def Node.tags : Node → List Tag
  | .text _ | .entity _ => []
  | .element tag attributes children => ⟨tag, attributes⟩ :: Node.tagsAll children
  | .void tag attributes => [⟨tag, attributes⟩]

/-- The opening tags of several pieces, one after the other. -/
def Node.tagsAll : List Node → List Tag
  | [] => []
  | node :: nodes => node.tags ++ Node.tagsAll nodes

end

namespace Token

lemma tags_ofContent (seen : List Char) : (ofContent seen).filterMap tag? = [] := by
  cases seen <;> rfl

/-- Joining texts leaves the opening tags alone. -/
lemma tags_joinFrom (seen : List Char) (tokens : List Token) :
    (joinFrom seen tokens).filterMap tag? = tokens.filterMap tag? := by
  induction tokens generalizing seen with
  | nil => exact tags_ofContent seen
  | cons token tokens ih =>
    cases token with
    | text content => exact ih _
    | opening tag attributes => simp [joinFrom, tags_ofContent, ih, tag?]
    | closing tag => simp [joinFrom, tags_ofContent, List.filterMap_cons, ih, tag?]

end Token

namespace Node

lemma tag?_opening (tag : String) (attributes : List Attribute) :
    Token.tag? (.opening tag.toList (attributes.map (Attribute.token id))) =
      some ⟨tag, attributes⟩ := by
  have hattributes : (attributes.map (Attribute.token id)).map
      (fun a => (⟨String.ofList a.1, a.2.map String.ofList⟩ : Attribute)) = attributes := by
    rw [List.map_map]
    conv_rhs => rw [← List.map_id attributes]
    refine List.map_congr_left fun a _ => ?_
    obtain ⟨name, _ | value⟩ := a <;> simp [Attribute.token]
  rw [Token.tag?, hattributes, String.ofList_toList]

mutual

/-- The tokens of a tree have the opening tags of the tree. -/
lemma tags_tokens : ∀ node : Node, (node.tokens id).filterMap Token.tag? = node.tags
  | .text content => rfl
  | .entity name => rfl
  | .element tag attributes children => by
    have hchildren := tags_tokensAll children
    have hopening := tag?_opening tag attributes
    rw [tokens, List.filterMap_cons, hopening, List.filterMap_append, hchildren, tags]
    exact congrArg _ (List.append_nil _)
  | .void tag attributes => by
    have hopening := tag?_opening tag attributes
    rw [tokens, List.filterMap_cons, hopening, tags]
    rfl

lemma tags_tokensAll : ∀ nodes : List Node,
    (tokensAll id nodes).filterMap Token.tag? = tagsAll nodes
  | [] => rfl
  | node :: nodes => by
    rw [tokensAll, List.filterMap_append, tags_tokens node, tags_tokensAll nodes, tagsAll]

end

/-- The opening tags of legal markup are read back as they stand in the tree. -/
lemma tags?_toText {node : Node} (hlegal : node.Legal) : tags? node.toText = some node.tags := by
  obtain ⟨tokens, hscan, -, hslots⟩ := scan_write hlegal
  rw [tags?, toText, String.toList_ofList, hscan, Option.map_some, hslots, slots]
  exact congrArg some ((Token.tags_joinFrom [] _).trans (tags_tokens node))

/-! ## Several pieces -/

lemma tagsAll_cons (node : Node) (nodes : List Node) :
    tagsAll (node :: nodes) = node.tags ++ tagsAll nodes := by
  rw [tagsAll]

lemma tagsAll_append (front back : List Node) :
    tagsAll (front ++ back) = tagsAll front ++ tagsAll back := by
  induction front with
  | nil => rfl
  | cons node front ih => rw [List.cons_append, tagsAll_cons, ih, tagsAll_cons, List.append_assoc]

lemma tagsAll_eq_flatMap (nodes : List Node) : tagsAll nodes = nodes.flatMap Node.tags := by
  induction nodes with
  | nil => rfl
  | cons node nodes ih => rw [tagsAll_cons, ih, List.flatMap_cons]

end Node

/-- What is sent for a view has the opening tags of its tree. -/
lemma tags?_render (view : View) : tags? view.render = some (annotationNode view).tags := by
  refine Node.tags?_toText ?_
  rw [annotationNode_eq]
  exact legal_annotationNodeWith view _

/-! ## The tags of an annotation

Two attributes tell elements apart: `id` gives an element an identity, and `data-entry` says to
which entry a button belongs.  Here the tags that bear one of them are separated from the rest. -/

/-- The tag has no identity and belongs to no entry. -/
@[mk_iff]
structure Tag.Plain (tag : Tag) : Prop where
  id : tag.value? "id" = none
  entry : tag.value? "data-entry" = none

lemma plain_noticeNode (notice : Notice) : ∀ tag ∈ (noticeNode notice).tags, tag.Plain := by
  simp [noticeNode, buttonAttributes, attr, Node.tags, Node.tagsAll, Tag.plain_iff, Tag.value?]

lemma plain_submissionNodes (view : View) :
    ∀ tag ∈ Node.tagsAll (submissionNodes view), tag.Plain := by
  unfold submissionNodes
  cases view.display with
  | editing draft => simp [attr, Node.tags, Node.tagsAll, Tag.plain_iff, Tag.value?]
  | viewing =>
    cases view.previousText <;> cases view.editOffered <;>
      simp [block, buttonAttributes, attr, Node.tags, Node.tagsAll, Tag.plain_iff, Tag.value?]

/-- A panel has an identity, and nothing in it does. -/
lemma tags_panelNode (panel : Panel) :
    ∃ opening inner, (panelNode panel).tags = opening :: inner ∧
      opening.value? "id" = some ("comment-panel-" ++ placeText panel.key) ∧
      opening.value? "data-entry" = none ∧ ∀ tag ∈ inner, tag.Plain := by
  obtain ⟨key, kind, placeholder⟩ := panel
  refine ⟨_, _, by rw [panelNode, Node.tags], ?_, ?_, ?_⟩
  · simp [attr, Tag.value?]
  · cases kind <;> simp [attr, Tag.value?, PanelKind.target?]
  · simp [buttonAttributes, attr, Node.tags, Node.tagsAll, Tag.plain_iff, Tag.value?]

/-- A panel, if there is one. -/
def panelNodes : Option Panel → List Node
  | some panel => [panelNode panel]
  | none => []

/-- An entry has a box with an identity, and in it its buttons and its panel. -/
lemma tags_entryNode (view : View) (controls : Controls) (entry : Entry) :
    ∃ item box head, (entryNode view controls entry).tags = item :: box :: (head ++
        (Node.tagsAll (controlNodes entry.index controls) ++
          Node.tagsAll (panelNodes (view.panels.get? (.entry entry.index))))) ∧
      box.value? "id" = some ("comment-box-" ++ indexText entry.index) ∧
      box.value? "data-entry" = none ∧ item.Plain ∧ ∀ tag ∈ head, tag.Plain := by
  have htags : ∀ (attributes : List Attribute) (front buttons panels : List Node),
      (Node.element "li" [] [.element "div" attributes (front ++ buttons ++ panels)]).tags =
        ⟨"li", []⟩ :: ⟨"div", attributes⟩ ::
          (Node.tagsAll front ++ (Node.tagsAll buttons ++ Node.tagsAll panels)) := by
    intro attributes front buttons panels
    simp [Node.tags, Node.tagsAll, Node.tagsAll_append]
  refine ⟨_, _, _, htags _ _ _ _, ?_, ?_, ?_, ?_⟩
  · simp [attr, Tag.value?]
  · simp [attr, Tag.value?]
  · simp [Tag.plain_iff, Tag.value?]
  · simp [block, attr, Node.tags, Node.tagsAll, Tag.plain_iff, Tag.value?]

/-- A notice, if there is one. -/
def noticeNodes : Option Notice → List Node
  | some notice => [noticeNode notice]
  | none => []

/-- The tags of an annotation, part by part. -/
lemma tags_annotationNode_parts (view : View) : (annotationNode view).tags =
    ⟨"div", [attr "class" "annotation-box", attr "data-annotation" view.annotationId]⟩ ::
      ⟨"div", [attr "class" "backend-id", attr "style" "display: none"]⟩ ::
        (Node.tagsAll (noticeNodes view.notice) ++ Node.tagsAll (submissionNodes view) ++
          (Node.tagsAll (panelNodes (editPanel? view)) ++
            ⟨"ul", [attr "class" "comment-list"]⟩ :: view.thread.visible.flatMap fun entry =>
              (entryNode view (view.controls entry) entry).tags)) := by
  have hentries : Node.tagsAll (view.thread.visible.map fun entry =>
      entryNode view (view.controls entry) entry) = view.thread.visible.flatMap fun entry =>
        (entryNode view (view.controls entry) entry).tags := by
    rw [Node.tagsAll_eq_flatMap, List.flatMap_map]
  rw [← hentries, annotationNode, frameNode]
  cases view.notice <;> cases editPanel? view <;>
    simp [noticeNodes, panelNodes, Node.tags, Node.tagsAll, Node.tagsAll_append]

/-- An annotation has the panel of its text, if one is open, and its entries. -/
lemma tags_annotationNode (view : View) :
    ∃ head list, (annotationNode view).tags =
        head ++ (Node.tagsAll (panelNodes (editPanel? view)) ++ list ::
          view.thread.visible.flatMap fun entry =>
            (entryNode view (view.controls entry) entry).tags) ∧
      list.Plain ∧ ∀ tag ∈ head, tag.Plain := by
  rw [tags_annotationNode_parts, ← List.cons_append, ← List.cons_append]
  refine ⟨_, _, rfl, by simp [attr, Tag.plain_iff, Tag.value?], ?_⟩
  simp only [List.forall_mem_cons, List.forall_mem_append]
  refine ⟨by simp [attr, Tag.plain_iff, Tag.value?], by simp [attr, Tag.plain_iff, Tag.value?], ?_,
    plain_submissionNodes view⟩
  cases view.notice with
  | none => simp [noticeNodes, Node.tagsAll]
  | some notice =>
    have hnotice := plain_noticeNode notice
    simpa [noticeNodes, Node.tagsAll] using hnotice

end AnnotationReview.Markup
