import AnnotationReview.DomainError

/-!
# Compose panels

A compose panel is the box in which a viewer explains an edit of the annotation or the
rejection of one thread entry.  A `PanelSet` keeps at most one panel per place, in the order in
which they were opened; opening a panel again moves it to the end.
-/

namespace AnnotationReview

/-- Where a panel is attached. -/
inductive PanelKey where
  /-- To the annotation's text. -/
  | text
  /-- To the thread entry with an index. -/
  | entry (index : UInt32)
deriving DecidableEq, Repr

/-- Which half of an annotation an edit changes. -/
inductive EditTarget where
  | naturalLanguage
  | command
deriving DecidableEq, Repr

namespace EditTarget

/-- The short name of the target. -/
def name : EditTarget → String
  | .naturalLanguage => "nl"
  | .command => "cmd"

/-- The target a short name stands for; the two names are matched exactly. -/
def ofName? : String → Option EditTarget
  | "nl" => some .naturalLanguage
  | "cmd" => some .command
  | _ => none

theorem ofName?_name (target : EditTarget) : ofName? target.name = some target := by
  cases target <;> rfl

/-- `ofName?`, where an unknown name is an invalid input. -/
def parse (word : String) : Except DomainError EditTarget :=
  match ofName? word with
  | some target => .ok target
  | none => .error <| .validation <|
      "Invalid edit target '" ++ word ++ "'. Must be one of: nl, cmd"

end EditTarget

/-- What a panel is for. -/
inductive PanelKind where
  | rejection
  | changeAndComment (target : EditTarget)
deriving DecidableEq, Repr

namespace PanelKind

/-- The edit target of a panel that explains an edit. -/
def target? : PanelKind → Option EditTarget
  | .rejection => none
  | .changeAndComment target => some target

end PanelKind

/-- A compose panel; the placeholder is the hint shown while it is empty. -/
structure Panel where
  key : PanelKey
  kind : PanelKind
  placeholder : String
deriving DecidableEq, Repr

/-- The open panels of one annotation, in opening order. -/
structure PanelSet where
  toList : List Panel
deriving DecidableEq, Repr

namespace PanelSet

/-- No panel is open. -/
def empty : PanelSet := ⟨[]⟩

/-- The panel open at a place. -/
def get? (panels : PanelSet) (key : PanelKey) : Option Panel :=
  panels.toList.find? (·.key == key)

/-- A panel is open at a place. -/
def isOpen (panels : PanelSet) (key : PanelKey) : Bool :=
  (panels.get? key).isSome

/-- Closes the panel at a place, if there is one, and tells which it was. -/
def close (panels : PanelSet) (key : PanelKey) : Option Panel × PanelSet :=
  (panels.get? key, ⟨panels.toList.eraseP (·.key == key)⟩)

/-- Opens a panel in place of the one that was open there, and tells which that was. -/
def insert (panels : PanelSet) (panel : Panel) : Option Panel × PanelSet :=
  let (replaced, others) := panels.close panel.key
  (replaced, ⟨others.toList ++ [panel]⟩)

@[simp] theorem toList_empty : empty.toList = [] := rfl

@[simp] theorem toList_close (panels : PanelSet) (key : PanelKey) :
    (panels.close key).2.toList = panels.toList.eraseP (·.key == key) := rfl

/-- Whatever was open at its place, a panel that is opened comes last. -/
@[simp] theorem toList_insert (panels : PanelSet) (panel : Panel) :
    (panels.insert panel).2.toList = panels.toList.eraseP (·.key == panel.key) ++ [panel] := rfl

/-- The panel open at a place, where a missing one is an invalid input. -/
def require (panels : PanelSet) (key : PanelKey) : Except DomainError Panel :=
  match panels.get? key with
  | some panel => .ok panel
  | none => .error <| .validation <|
      match key with
      | .text => "No edit panel is open"
      | .entry index => "No comment panel is open on entry " ++ toString index.toNat

/-- The number of open panels. -/
def size (panels : PanelSet) : Nat :=
  panels.toList.length

/-- No panel is open. -/
def isEmpty (panels : PanelSet) : Bool :=
  panels.toList.isEmpty

end PanelSet

end AnnotationReview
