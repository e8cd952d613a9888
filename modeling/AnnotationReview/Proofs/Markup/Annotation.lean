import AnnotationReview.Markup.Annotation
import AnnotationReview.Proofs.Markup.Node

/-!
# What a viewer types cannot change the markup

The markup of a view is compared with that of the same view without a single text (`View.blank`),
where every entry keeps the controls it has: those depend on who is looking and are decided before
anything is written.  Both are read as the same tags with the same attributes, and every text and
value of the tree is found where it was put, letter by letter (`markup_keeps_texts`).
-/

namespace AnnotationReview

/-! ## Without texts -/

/-- The entry without its texts. -/
def Entry.blank (entry : Entry) : Entry :=
  { entry with update := ⟨"", "", "", "", "", entry.update.origin⟩ }

/-- The panel without its hint. -/
def Panel.blank (panel : Panel) : Panel :=
  { panel with placeholder := "" }

/-- The notice without its message. -/
def Notice.blank (notice : Notice) : Notice :=
  { notice with message := "" }

/-- The display without what is being written. -/
def Display.blank : Display → Display
  | .viewing => .viewing
  | .editing _ => .editing ""

/-- The view with the empty text in place of every text. -/
def View.blank (view : View) : View where
  annotationId := ""
  viewer := ""
  text := ""
  previousText := view.previousText.map fun _ => ""
  display := view.display.blank
  editOffered := view.editOffered
  thread := { view.thread with entries := view.thread.entries.map Entry.blank }
  panels := ⟨view.panels.toList.map Panel.blank⟩
  notice := view.notice.map Notice.blank

namespace Markup

open Token (IsName)

/-- The markup of a view whose visible entries are given their controls one by one. -/
def annotationNodeWith (view : View) (controls : List Controls) : Node :=
  frameNode view ((controls.zip view.thread.visible).map fun (offered, entry) =>
    entryNode view offered entry)

/-- A view gives its entries the controls it offers. -/
lemma annotationNode_eq (view : View) :
    annotationNode view = annotationNodeWith view (view.thread.visible.map view.controls) := by
  have hzip : (view.thread.visible.map view.controls).zip view.thread.visible =
      view.thread.visible.map fun entry => (view.controls entry, entry) := by
    rw [← List.zip_map', List.map_id']
  rw [annotationNode, annotationNodeWith, hzip, List.map_map]
  rfl

/-! ## Names -/

/-- The sign that closes a notice is no character of an escaped text. -/
lemma readsAs_times : ReadsAs "&times;".toList "&times;".toList := fun _ => rfl

lemma legal_noticeNode (notice : Notice) : (noticeNode notice).Legal := by
  have htimes := readsAs_times
  simpa [noticeNode, attr, buttonAttributes, Node.Legal, Node.AllLegal, IsName] using htimes

lemma legal_submissionNodes (view : View) : Node.AllLegal (submissionNodes view) := by
  unfold submissionNodes
  cases view.display with
  | editing draft => simp [attr, Node.Legal, Node.AllLegal, IsName]
  | viewing =>
    cases view.previousText <;> cases view.editOffered <;>
      simp [block, attr, buttonAttributes, Node.Legal, Node.AllLegal, IsName]

lemma legal_panelNode (panel : Panel) : (panelNode panel).Legal := by
  obtain ⟨key, kind, placeholder⟩ := panel
  cases kind <;>
    simp [panelNode, PanelKind.target?, attr, buttonAttributes, Node.Legal, Node.AllLegal, IsName]

lemma legal_entryButton (index : UInt32) (className verb label : String) (enabled : Bool) :
    (entryButton index className verb label enabled).Legal := by
  cases enabled <;>
    simp [entryButton, attr, buttonAttributes, Node.Legal, Node.AllLegal, IsName]

lemma legal_controlNodes (index : UInt32) (controls : Controls) :
    Node.AllLegal (controlNodes index controls) := by
  cases controls <;> simp [controlNodes, Node.AllLegal, legal_entryButton]

lemma legal_entryNode (view : View) (controls : Controls) (entry : Entry) :
    (entryNode view controls entry).Legal := by
  have hcontrols := legal_controlNodes entry.index controls
  unfold entryNode
  cases view.panels.get? (.entry entry.index) with
  | none => simp [block, attr, Node.Legal, Node.AllLegal, IsName, hcontrols]
  | some panel =>
    simp [block, attr, Node.Legal, Node.AllLegal, IsName, Node.allLegal_append, hcontrols,
      legal_panelNode]

lemma legal_frameNode {entries : List Node} (view : View) (hentries : Node.AllLegal entries) :
    (frameNode view entries).Legal := by
  have hsubmission := legal_submissionNodes view
  unfold frameNode
  cases view.notice <;> cases editPanel? view <;>
    simp [attr, Node.Legal, Node.AllLegal, IsName, Node.allLegal_append, hentries, hsubmission,
      legal_noticeNode, legal_panelNode]

/-- The markup of a view is legal whatever its texts are. -/
lemma legal_annotationNodeWith (view : View) (controls : List Controls) :
    (annotationNodeWith view controls).Legal := by
  refine legal_frameNode view (Node.allLegal_iff.mpr fun node hmem => ?_)
  obtain ⟨⟨offered, entry⟩, -, rfl⟩ := List.mem_map.mp hmem
  exact legal_entryNode view offered entry

/-! ## Tags -/

lemma shapes_panelNode_blank (panel : Panel) :
    (panelNode panel.blank).shapes = (panelNode panel).shapes := by
  obtain ⟨key, kind, placeholder⟩ := panel
  cases kind <;> rfl

lemma shapes_noticeNode_blank (notice : Notice) :
    (noticeNode notice.blank).shapes = (noticeNode notice).shapes := rfl

lemma get?_blank (view : View) (key : PanelKey) :
    view.blank.panels.get? key = (view.panels.get? key).map Panel.blank := by
  rw [PanelSet.get?, PanelSet.get?, View.blank, List.find?_map]
  rfl

lemma editPanel?_blank (view : View) :
    editPanel? view.blank = (editPanel? view).map Panel.blank := by
  rw [editPanel?, editPanel?, View.blank, List.find?_map]
  rfl

lemma visible_blank (view : View) :
    view.blank.thread.visible = view.thread.visible.map Entry.blank := by
  rw [Thread.visible, Thread.visible, View.blank, List.filter_map]
  rfl

lemma shapes_entryNode_blank (view : View) (controls : Controls) (entry : Entry) :
    (entryNode view.blank controls entry.blank).shapes =
      (entryNode view controls entry).shapes := by
  have hpanel := get?_blank view (.entry entry.index)
  unfold entryNode
  rw [show entry.blank.index = entry.index from rfl, hpanel]
  cases view.panels.get? (.entry entry.index) with
  | none => rfl
  | some panel =>
    simp only [Option.map_some, Node.shapes_element, Node.shapesAll_append, Node.shapesAll_cons,
      shapes_panelNode_blank]
    rfl

lemma shapes_submissionNodes_blank (view : View) :
    Node.shapesAll (submissionNodes view.blank) = Node.shapesAll (submissionNodes view) := by
  obtain ⟨annotationId, viewer, text, previousText, display, editOffered, thread, panels, notice⟩ :=
    view
  cases display <;> cases previousText <;> cases editOffered <;> rfl

lemma shapes_frameNode_blank (view : View) {blanks entries : List Node}
    (hentries : Node.shapesAll blanks = Node.shapesAll entries) :
    (frameNode view.blank blanks).shapes = (frameNode view entries).shapes := by
  have hpanel := editPanel?_blank view
  have hsubmission := shapes_submissionNodes_blank view
  have hnotice : view.blank.notice = view.notice.map Notice.blank := rfl
  unfold frameNode
  rw [hpanel, hnotice]
  cases view.notice <;> cases editPanel? view <;>
    simp only [Option.map_none, Option.map_some, Node.shapes_element, Node.shapesAll_append,
      Node.shapesAll_cons, shapes_panelNode_blank, shapes_noticeNode_blank, hsubmission,
      hentries] <;>
    rfl

/-- Without its texts a view has the same tags, as long as its entries keep their controls. -/
lemma shapes_blank (view : View) (controls : List Controls) :
    (annotationNodeWith view.blank controls).shapes =
      (annotationNodeWith view controls).shapes := by
  refine shapes_frameNode_blank view ?_
  rw [visible_blank, List.zip_map_right, List.map_map]
  induction controls.zip view.thread.visible with
  | nil => rfl
  | cons shown more ih =>
    obtain ⟨offered, entry⟩ := shown
    rw [List.map_cons, List.map_cons, Node.shapesAll_cons, Node.shapesAll_cons, ih]
    exact congrArg (· ++ _) (shapes_entryNode_blank view offered entry)

/-! ## What is read back -/

/-- **User text cannot change the markup.**  Whatever texts a view holds, its markup is read as the
same tags with the same attributes as that of the view without them, its entries keeping the
controls they have; and with the entities read back, the texts and values that are read are those of
the tree.  The reason is what escaping does to a text: no character that could end it is left, every
ampersand starts one of the five entities, texts in a row are escaped one after the other, and all
of them are read back. -/
theorem markup_keeps_texts :
    (∀ view : View, ∃ tokens blanks,
      Token.scan view.render.toList = some tokens ∧
      Token.scan (annotationNodeWith view.blank
        (view.thread.visible.map view.controls)).toText.toList = some blanks ∧
      tokens.filterMap Token.shape? = blanks.filterMap Token.shape? ∧
      tokens.map Token.unescaped = (annotationNode view).slots) ∧
    (∀ text : String, ∀ d ∈ delimiters, d ∉ (escape text).toList) ∧
    (∀ text front back, (escape text).toList = front ++ '&' :: back →
      ∃ entity ∈ entities, entity <+: back) ∧
    (∀ first second, escape (first ++ second) = escape first ++ escape second) ∧
    ∀ text : String, unescape (escape text).toList = text.toList := by
  refine ⟨fun view => ?_, fun text d hd => ?_, fun text front back hwritten => ?_,
    fun first second => ?_, fun text => ?_⟩
  · have hlegal := legal_annotationNodeWith view (view.thread.visible.map view.controls)
    have hblank := legal_annotationNodeWith view.blank (view.thread.visible.map view.controls)
    rw [View.render, annotationNode_eq, Node.toText, Node.toText, String.toList_ofList,
      String.toList_ofList]
    obtain ⟨tokens, hscan, hshapes, hslots⟩ := Node.scan_write hlegal
    obtain ⟨blanks, hscanBlank, hshapesBlank, -⟩ := Node.scan_write hblank
    refine ⟨tokens, blanks, hscan, hscanBlank, ?_, hslots⟩
    rw [hshapes, hshapesBlank, shapes_blank]
  · rw [escape, String.toList_ofList]
    exact not_mem_escapeChars text.toList hd
  · rw [escape, String.toList_ofList] at hwritten
    exact entity_of_escapeChars hwritten
  · rw [escape, escape, escape, String.toList_append, escapeChars_append, String.ofList_append]
  · rw [escape, String.toList_ofList]
    exact (readsAs_escapeChars text.toList).unescape_eq

/-- A text that is written to break out of the page, and what its characters become. -/
theorem markup_keeps_script :
    (∃ tokens blanks,
      Token.scan (View.fresh "A&1" "judge" "\"><script>").render.toList = some tokens ∧
      Token.scan (annotationNodeWith (View.fresh "A&1" "judge" "\"><script>").blank
        []).toText.toList = some blanks ∧
      tokens.filterMap Token.shape? = blanks.filterMap Token.shape? ∧
      tokens.map Token.unescaped =
        (annotationNode (View.fresh "A&1" "judge" "\"><script>")).slots) ∧
    '<' ∉ (escape "\"><script>").toList ∧
    (∃ entity ∈ entities, entity <+: "amp;1".toList) ∧
    escape ("A&" ++ "1") = escape "A&" ++ escape "1" ∧
    unescape (escape "A&1").toList = "A&1".toList := by
  obtain ⟨hmarkup, hplain, hentity, happend, hread⟩ := markup_keeps_texts
  exact ⟨hmarkup _, hplain _ _ (by simp [delimiters]), hentity "A&1" ['A'] _ (by decide),
    happend _ _, hread _⟩

end Markup

end AnnotationReview
