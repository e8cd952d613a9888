import AnnotationReview.Json.Value
import AnnotationReview.Markup.Annotation

/-!
# Views as JSON

How statuses, controls, panels, notices and views are told to callers, and the snapshot of a
view: the view itself, what each visible entry offers, and the markup.
-/

namespace AnnotationReview

open Json (Value)

/-- The status by its name. -/
def Status.toJson (status : Status) : Value := .string status.name

/-- An entry's index. -/
def indexToJson (index : UInt32) : Value := .nat index.toNat

/-- An entry with its update, all in one object. -/
def Entry.toJson (entry : Entry) : Value :=
  .object
    [("index", indexToJson entry.index),
      ("backend_id", .string entry.update.id),
      ("proposer_id", .string entry.update.proposer),
      ("submission_time", .string entry.update.submittedAt),
      ("text", .string entry.update.text),
      ("comment", .string entry.update.comment),
      ("tag", .string entry.update.origin.tag),
      ("status", .ofOption Status.toJson entry.status),
      ("hidden", .bool entry.hidden)]

/-- The members that tell what an entry offers. -/
def Controls.members : Controls → List (String × Value)
  | .inert => [("kind", .string "inert")]
  | .retract => [("kind", .string "retract")]
  | .review rejectEnabled =>
    [("kind", .string "review"), ("reject_enabled", .bool rejectEnabled),
      ("change_enabled", .bool false)]

/-- Where a panel is attached. -/
def PanelKey.toJson : PanelKey → Value
  | .text => .object [("scope", .string "annotation")]
  | .entry index => .object [("scope", .string "entry"), ("entry", indexToJson index)]

/-- What a panel is for. -/
def PanelKind.toJson : PanelKind → Value
  | .rejection => .object [("kind", .string "rejection")]
  | .changeAndComment target =>
    .object [("kind", .string "change_and_comment"), ("target", .string target.name)]

/-- A panel. -/
def Panel.toJson (panel : Panel) : Value :=
  .object
    [("key", panel.key.toJson), ("kind", panel.kind.toJson),
      ("placeholder", .string panel.placeholder)]

/-- The open panels in opening order. -/
def PanelSet.toJson (panels : PanelSet) : Value :=
  .array (panels.toList.map Panel.toJson)

/-- A notice. -/
def Notice.toJson (notice : Notice) : Value :=
  .object [("kind", .string notice.kind.name), ("message", .string notice.message)]

/-- Whether the text is shown or being edited. -/
def Display.toJson : Display → Value
  | .viewing => .object [("mode", .string "viewing")]
  | .editing draft => .object [("mode", .string "editing"), ("draft", .string draft)]

/-- The entries and the index of the next one. -/
def Thread.toJson (thread : Thread) : Value :=
  .object
    [("entries", .array (thread.entries.map Entry.toJson)),
      ("next_index", indexToJson thread.nextIndex)]

namespace View

/-- A view. -/
def toJson (view : View) : Value :=
  .object
    [("annotation_id", .string view.annotationId),
      ("viewer", .string view.viewer),
      ("text", .string view.text),
      ("previous_text", .ofOption .string view.previousText),
      ("display", view.display.toJson),
      ("edit_pair_visible", .bool view.editOffered),
      ("thread", view.thread.toJson),
      ("panels", view.panels.toJson),
      ("notice", .ofOption Notice.toJson view.notice)]

/-- What the visible entries offer, in thread order. -/
def offers (view : View) : List (UInt32 × Controls) :=
  view.thread.visible.map fun entry => (entry.index, view.controls entry)

/-- A view, what its entries offer, and its markup. -/
def snapshot (view : View) : Value :=
  .object
    [("annotation", view.toJson),
      ("controls", .array <| view.offers.map fun (index, controls) =>
        .object (("entry", indexToJson index) :: controls.members)),
      ("html", .string view.render)]

end View

end AnnotationReview
