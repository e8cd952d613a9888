import AnnotationReview.Proofs.Legality
import AnnotationReview.Proofs.Markup.Tag

/-!
# Identities in the markup

Some elements are given an identity by which scripts and style sheets find them: every thread
entry, each of its buttons, and every compose panel.  An identity is written from what the element
is and from where it stands (`Anchor`), and this writing can be read back, so that two elements are
told apart by their identities as soon as they differ in one of the two (`Anchor.text_injective`).
The identities in the markup of a view are those of `View.anchors`, in the order of the markup.
-/

namespace AnnotationReview

namespace Markup

/-! ## Writing an identity -/

/-- What an element with an identity is. -/
inductive Role where
  | box
  | change
  | reject
  | accept
  | retract
  | panel
deriving DecidableEq, Repr

/-- How the identity begins. -/
def Role.stem : Role → String
  | .box => "comment-box-"
  | .change => "change-update-"
  | .reject => "reject-update-"
  | .accept => "accept-update-"
  | .retract => "retract-update-"
  | .panel => "comment-panel-"

/-- An element with an identity: what it is, and where it stands. -/
structure Anchor where
  role : Role
  place : PanelKey
deriving DecidableEq, Repr

/-- The identity of an element. -/
def Anchor.text (anchor : Anchor) : String :=
  anchor.role.stem ++ placeText anchor.place

/-- No two beginnings are the same, and none begins with another. -/
lemma Role.eq_of_stem_prefix {first second : Role}
    (hbegins : first.stem.toList <+: second.stem.toList) : first = second := by
  revert hbegins
  cases first <;> cases second <;> simp [Role.stem]

/-- An index is written in decimal digits. -/
lemma toList_indexText (index : UInt32) :
    (indexText index).toList = Nat.toDigits 10 index.toNat := by
  rw [indexText, Nat.toString_eq_ofList_toDigits, String.toList_ofList]

lemma indexText_injective {first second : UInt32} (hsame : indexText first = indexText second) :
    first = second := by
  have hdigits : Nat.toDigits 10 first.toNat = Nat.toDigits 10 second.toNat := by
    rw [← toList_indexText, ← toList_indexText, hsame]
  have hread := congrArg (Nat.ofDigitChars 10 · 0) hdigits
  simp only [Nat.ofDigitChars_ten_toDigits] at hread
  exact UInt32.toNat_inj.mp hread

/-- The place of the edit panel is not written as an index is. -/
lemma placeText_injective {first second : PanelKey} (hsame : placeText first = placeText second) :
    first = second := by
  have hletter : ∀ index : UInt32, placeText .text ≠ placeText (.entry index) := by
    intro index hindex
    have hword : Nat.toDigits 10 index.toNat = "edit".toList := by
      rw [← toList_indexText]
      exact congrArg String.toList hindex.symm
    have hmem : 'e' ∈ Nat.toDigits 10 index.toNat := by simp [hword]
    exact absurd (Nat.isDigit_of_mem_toDigits (by decide) (by decide) hmem) (by decide)
  cases first with
  | text =>
    cases second with
    | text => rfl
    | entry index => exact absurd hsame (hletter index)
  | entry index =>
    cases second with
    | text => exact absurd hsame.symm (hletter index)
    | entry other => exact congrArg PanelKey.entry (indexText_injective hsame)

/-- Elements with one identity are the same thing in the same place. -/
lemma Anchor.text_injective : Function.Injective Anchor.text := by
  rintro ⟨first, here⟩ ⟨second, there⟩ hsame
  have hchars : first.stem.toList ++ (placeText here).toList =
      second.stem.toList ++ (placeText there).toList := by
    have hlist := congrArg String.toList hsame
    rwa [text, text, String.toList_append, String.toList_append] at hlist
  have hrole : first = second := by
    rcases List.append_eq_append_iff.mp hchars with ⟨more, hmore, -⟩ | ⟨more, hmore, -⟩
    · exact Role.eq_of_stem_prefix ⟨more, hmore.symm⟩
    · exact (Role.eq_of_stem_prefix ⟨more, hmore.symm⟩).symm
  subst hrole
  have hplace := String.toList_inj.mp (List.append_cancel_left hchars)
  rw [placeText_injective hplace]

/-! ## Reading identities -/

/-- The identities among tags, in their order. -/
def identities (tags : List Tag) : List String :=
  tags.filterMap (·.value? "id")

lemma identities_append (front back : List Tag) :
    identities (front ++ back) = identities front ++ identities back :=
  List.filterMap_append

lemma identities_flatMap {α : Type} (items : List α) (tags : α → List Tag) :
    identities (items.flatMap tags) = items.flatMap fun item => identities (tags item) := by
  induction items with
  | nil => rfl
  | cons item items ih => rw [List.flatMap_cons, identities_append, ih, List.flatMap_cons]

end Markup

open Markup

/-! ## The identities of a view -/

/-- The buttons of an entry. -/
def Controls.roles : Controls → List Role
  | .inert => []
  | .review _ => [.change, .reject, .accept]
  | .retract => [.retract]

/-- An entry's box, its buttons and its panel, if one is open. -/
def View.entryRoles (view : View) (entry : Entry) : List Role :=
  .box :: ((view.controls entry).roles ++
    if view.panels.isOpen (.entry entry.index) then [.panel] else [])

/-- What has an identity in the markup of a view. -/
def View.anchors (view : View) : List Anchor :=
  (editPanel? view).toList.map (fun panel => ⟨.panel, panel.key⟩) ++
    view.thread.visible.flatMap fun entry =>
      (view.entryRoles entry).map fun role => ⟨role, .entry entry.index⟩

namespace Markup

lemma identities_of_plain {tags : List Tag} (hplain : ∀ tag ∈ tags, tag.Plain) :
    identities tags = [] :=
  List.filterMap_eq_nil_iff.mpr fun tag hmem => (hplain tag hmem).id

lemma identities_cons_of_plain {tag : Tag} (hplain : tag.Plain) (tags : List Tag) :
    identities (tag :: tags) = identities tags :=
  List.filterMap_cons_none hplain.id

lemma identities_cons_of_value {tag : Tag} {identity : String}
    (hvalue : tag.value? "id" = some identity) (tags : List Tag) :
    identities (tag :: tags) = identity :: identities tags :=
  List.filterMap_cons_some hvalue

lemma identities_panelNodes (panel? : Option Panel) :
    identities (Node.tagsAll (panelNodes panel?)) =
      panel?.toList.map fun panel => Anchor.text ⟨.panel, panel.key⟩ := by
  cases panel? with
  | none => rfl
  | some panel =>
    obtain ⟨opening, inner, htags, hvalue, -, hplain⟩ := tags_panelNode panel
    rw [panelNodes, Node.tagsAll, Node.tagsAll, List.append_nil, htags,
      identities_cons_of_value hvalue, identities_of_plain hplain]
    rfl

lemma identities_entryButton (index : UInt32) (className verb label : String) (enabled : Bool) :
    identities (entryButton index className verb label enabled).tags =
      [verb ++ "-update-" ++ indexText index] := by
  simp [entryButton, identities, buttonAttributes, attr, Node.tags, Node.tagsAll, Tag.value?]

lemma identities_controlNodes (index : UInt32) (controls : Controls) :
    identities (Node.tagsAll (controlNodes index controls)) =
      controls.roles.map fun role => Anchor.text ⟨role, .entry index⟩ := by
  have hbutton := identities_entryButton index
  cases controls with
  | inert => rfl
  | review rejectEnabled =>
    simp only [controlNodes, Node.tagsAll, identities_append, hbutton]
    rfl
  | retract =>
    simp only [controlNodes, Node.tagsAll, identities_append, hbutton]
    rfl

/-- An entry has the identities of its box, of its buttons and of its panel. -/
lemma identities_entryNode (view : View) (entry : Entry) :
    identities (entryNode view (view.controls entry) entry).tags =
      (view.entryRoles entry).map fun role => Anchor.text ⟨role, .entry entry.index⟩ := by
  have hcontrols := identities_controlNodes entry.index (view.controls entry)
  have hpanels := identities_panelNodes (view.panels.get? (.entry entry.index))
  obtain ⟨item, box, head, htags, hbox, -, hitem, hhead⟩ :=
    tags_entryNode view (view.controls entry) entry
  rw [htags, identities_cons_of_plain hitem, identities_cons_of_value hbox, identities_append,
    identities_append, identities_of_plain hhead, hcontrols, hpanels, View.entryRoles,
    PanelSet.isOpen]
  cases hpanel : view.panels.get? (.entry entry.index) with
  | none => simp [Anchor.text, Role.stem, placeText]
  | some panel =>
    have hkey := PanelSet.key_of_get? hpanel
    simp [Anchor.text, Role.stem, placeText, hkey]

/-- The identities in the markup of a view are those of its anchors. -/
lemma identities_annotationNode (view : View) :
    identities (annotationNode view).tags = view.anchors.map Anchor.text := by
  have hpanel := identities_panelNodes (editPanel? view)
  obtain ⟨head, list, htags, hlist, hhead⟩ := tags_annotationNode view
  rw [htags, identities_append, identities_append, identities_of_plain hhead, hpanel,
    identities_cons_of_plain hlist, identities_flatMap, View.anchors, List.map_append,
    List.map_map, List.map_flatMap, List.nil_append]
  refine congrArg₂ _ rfl (List.flatMap_congr fun entry _ => ?_)
  rw [identities_entryNode, List.map_map]
  rfl

end Markup

end AnnotationReview
