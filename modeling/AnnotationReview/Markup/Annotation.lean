import AnnotationReview.Markup.Node
import AnnotationReview.View

/-!
# The markup of an annotation

The tree that shows a `View`: the text or its edit input, the notice, the compose panels and the
thread.  Class names are those the site's style sheet knows.  Every button names the operation
it starts in `data-action` and, where it belongs to an entry, the entry's index in
`data-entry`.
-/

namespace AnnotationReview.Markup

/-- An attribute with a value. -/
def attr (name value : String) : Attribute := ⟨name, some value⟩

/-- A block with a class. -/
def block (className : String) (children : List Node) : Node :=
  .element "div" [attr "class" className] children

/-- The text of an entry's index. -/
def indexText (index : UInt32) : String := toString index.toNat

/-- A button's attributes: type, class and action come first. -/
def buttonAttributes (className : String) (more : List Attribute) : List Attribute :=
  [attr "type" "button", attr "class" className] ++ more

/-- The message above the thread. -/
def noticeNode (notice : Notice) : Node :=
  .element "div"
    [attr "class" ("widget-notice notice-" ++ notice.kind.name), attr "role" "alert"]
    [.text notice.message,
      .element "button" (buttonAttributes "close" [attr "data-action" "dismiss_notice"])
        [.entity "times"]]

/-- The text of the annotation, or the input in which it is being edited. -/
def submissionNodes (view : View) : List Node :=
  match view.display with
  | .editing draft =>
    [.void "input"
      [attr "type" "text", attr "class" "form-control nl-submission-edit-input",
        attr "value" draft]]
  | .viewing =>
    let edit : List Node :=
      if view.editOffered then
        [.element "span" [attr "class" "edit-pair"]
          [.element "button"
            (buttonAttributes "btn btn-default btn-sm nl-submission-edit"
              [attr "data-action" "open_edit"])
            [.text "Edit"]]]
      else []
    let previous : List Node :=
      match view.previousText with
      | some text => [block "previous-submission" [.text text]]
      | none => []
    block "nl-submission" (.text view.text :: edit) :: previous

/-- The part of an element id that names a panel's place. -/
def placeText : PanelKey → String
  | .text => "edit"
  | .entry index => indexText index

/-- A compose panel with its two buttons. -/
def panelNode (panel : Panel) : Node :=
  let target : List Attribute :=
    match panel.kind.target? with
    | some target => [attr "data-target" target.name]
    | none => []
  let purpose := match panel.kind with
    | .rejection => "rejection"
    | .changeAndComment _ => "edit"
  .element "div"
    ([attr "class" "comment-panel", attr "id" ("comment-panel-" ++ placeText panel.key)] ++ target)
    [.element "textarea"
        [attr "class" "form-control comment-input vresize", attr "placeholder" panel.placeholder]
        [],
      .element "button"
        (buttonAttributes "btn btn-primary btn-sm submit-update"
          [attr "data-action" ("submit_" ++ purpose)])
        [.text "Submit"],
      .element "button"
        (buttonAttributes "btn btn-default btn-sm cancel-update"
          [attr "data-action" ("cancel_" ++ purpose)])
        [.text "Cancel"]]

/-- A button of a thread entry. -/
def entryButton (index : UInt32) (className verb label : String) (enabled : Bool) : Node :=
  .element "button"
    (buttonAttributes ("btn " ++ className ++ " btn-sm " ++ verb ++ "-update")
      ([attr "id" (verb ++ "-update-" ++ indexText index), attr "data-action" verb,
          attr "data-entry" (indexText index)] ++
        if enabled then [] else [⟨"disabled", none⟩]))
    [.text label]

/-- The buttons that go with the controls of an entry. -/
def controlNodes (index : UInt32) : Controls → List Node
  | .inert => []
  | .review rejectEnabled =>
    [entryButton index "btn-default" "change" "Change" false,
      entryButton index "btn-warning" "reject" "Reject" rejectEnabled,
      entryButton index "btn-primary" "accept" "Accept" true]
  | .retract => [entryButton index "btn-warning" "retract" "Retract" true]

/-- A thread entry with its controls and its panel. -/
def entryNode (view : View) (controls : Controls) (entry : Entry) : Node :=
  let panel : List Node :=
    match view.panels.get? (.entry entry.index) with
    | some panel => [panelNode panel]
    | none => []
  let update := entry.update
  .element "li" []
    [.element "div"
      [attr "class" "comment-box", attr "id" ("comment-box-" ++ indexText entry.index)]
      ([.element "div" [attr "class" "comment-backend-id", attr "style" "display: none"]
          [.text update.id],
        block "comment-head"
          [block ("comment-name " ++ update.origin.tag) [.text update.proposer],
            .element "span" [attr "class" "submission-time"] [.text update.submittedAt]],
        block "update-content" [.text update.text],
        block "comment-content" [.text update.comment]] ++
        controlNodes entry.index controls ++ panel)]

/-- The first open panel that explains an edit; it stands between text and thread. -/
def editPanel? (view : View) : Option Panel :=
  view.panels.toList.find? fun panel => panel.kind.target?.isSome

/-- What stands around the entries of the thread. -/
def frameNode (view : View) (entries : List Node) : Node :=
  let notice : List Node :=
    match view.notice with
    | some notice => [noticeNode notice]
    | none => []
  let panel : List Node :=
    match editPanel? view with
    | some panel => [panelNode panel]
    | none => []
  .element "div"
    [attr "class" "annotation-box", attr "data-annotation" view.annotationId]
    ([.element "div" [attr "class" "backend-id", attr "style" "display: none"]
        [.text view.annotationId]] ++
      notice ++ submissionNodes view ++ panel ++
      [.element "ul" [attr "class" "comment-list"] entries])

/-- The whole annotation. -/
def annotationNode (view : View) : Node :=
  frameNode view (view.thread.visible.map fun entry => entryNode view (view.controls entry) entry)

end AnnotationReview.Markup

namespace AnnotationReview

/-- The markup that shows a view. -/
def View.render (view : View) : String :=
  (Markup.annotationNode view).toText

end AnnotationReview
