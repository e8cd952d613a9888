import AnnotationReview.Proofs.PanelSet
import Mathlib.Data.List.Induction
import Mathlib.Data.Set.Card

/-!
# Opening and closing panels

A set of panels is a map from places to panels that keeps its order (`panels_by_place`).  What is in
it is told by what was done with it: a panel stands there if it was opened and its place neither
opened again nor closed since (`standing`).  All that is asked of it agrees with its list
(`Agrees`), and what opening and closing do says nothing of other places (`Opens`, `Closes`).
-/

namespace AnnotationReview

namespace PanelSet

variable {panels : PanelSet} {panel : Panel} {key : PanelKey}

/-! ## What was done with a set of panels -/

/-- What is done with a set of panels: a panel is opened, a place is closed, or the panel at a place
is called for. -/
inductive Deed where
  | opens (panel : Panel)
  | closes (key : PanelKey)
  | requires (key : PanelKey)

namespace Deed

/-- The set that a deed leaves.  Calling for a panel is answered out of the set as it is. -/
def perform (panels : PanelSet) : Deed → PanelSet
  | .opens panel => (panels.insert panel).2
  | .closes key => (panels.close key).2
  | .requires _ => panels

/-- The deed decides what stands at a place. -/
def settles (key : PanelKey) : Deed → Bool
  | .opens panel => panel.key == key
  | .closes closed => closed == key
  | .requires _ => false

/-- The panel that a deed opens. -/
def opened? : Deed → Option Panel
  | .opens panel => some panel
  | .closes _ | .requires _ => none

end Deed

/-- The set that some deeds leave, in which no panel was open before. -/
def after (deeds : List Deed) : PanelSet :=
  deeds.foldl (fun panels deed => deed.perform panels) .empty

/-- The panels that were opened and whose places were not settled since, in order of opening. -/
def standing : List Deed → List Panel
  | [] => []
  | deed :: later =>
    deed.opened?.toList.filter (fun panel => later.all fun next => !next.settles panel.key) ++
      standing later

lemma after_concat (deeds : List Deed) (deed : Deed) :
    after (deeds ++ [deed]) = deed.perform (after deeds) := by
  rw [after, List.foldl_append]
  rfl

/-- The latest deed sets aside what stood at its place, and what it opens comes last. -/
lemma standing_concat (deeds : List Deed) (deed : Deed) :
    standing (deeds ++ [deed]) =
      (standing deeds).filter (fun panel => !deed.settles panel.key) ++ deed.opened?.toList := by
  induction deeds with
  | nil => cases deed <;> rfl
  | cons first later ih =>
    rw [List.cons_append, standing, standing, ih, List.filter_append, List.filter_filter,
      List.append_assoc]
    simp [Bool.and_comm]

/-- One deed does to a set what the latest deed does to what is standing. -/
lemma Distinct.perform (hdistinct : panels.Distinct) (deed : Deed) :
    (deed.perform panels).Distinct ∧
      (deed.perform panels).toList =
        panels.toList.filter (fun panel => !deed.settles panel.key) ++ deed.opened?.toList := by
  cases deed with
  | opens panel =>
    refine ⟨hdistinct.insert panel, (hdistinct.toList_insert panel).trans ?_⟩
    simp [elsewhere, Deed.settles, Deed.opened?, bne, Bool.beq_comm]
  | closes key =>
    refine ⟨hdistinct.close key, (hdistinct.toList_close key).trans ?_⟩
    simp [elsewhere, Deed.settles, Deed.opened?, bne, Bool.beq_comm]
  | requires key => exact ⟨hdistinct, by simp [Deed.perform, Deed.settles, Deed.opened?]⟩

/-- What was done with a set of panels tells which panels are in it, and in which order. -/
lemma distinct_after (deeds : List Deed) :
    (after deeds).Distinct ∧ (after deeds).toList = standing deeds := by
  induction deeds using List.reverseRecOn with
  | nil => exact ⟨List.nodup_nil, rfl⟩
  | append_singleton deeds deed ih =>
    obtain ⟨hdistinct, hstanding⟩ := ih
    obtain ⟨hnow, hlist⟩ := hdistinct.perform deed
    rw [after_concat, standing_concat, ← hstanding]
    exact ⟨hnow, hlist⟩

/-! ## A map that keeps its order -/

/-- However a set of panels is asked, it tells of the same panels, one at a place. -/
structure Agrees (panels : PanelSet) : Prop where
  keys : (panels.toList.map Panel.key).Nodup
  get? : ∀ key panel, panels.get? key = some panel ↔ panel ∈ panels.toList ∧ panel.key = key
  isOpen : ∀ key, panels.isOpen key = true ↔ ∃ panel, panels.get? key = some panel
  require : ∀ key panel, panels.require key = .ok panel ↔ panels.get? key = some panel
  /-- A panel that is called for is missing just where none is open. -/
  missing : ∀ key, (∃ message, panels.require key = .error (.validation message)) ↔
    panels.isOpen key = false
  size : panels.size = {key | panels.isOpen key = true}.ncard
  isEmpty : panels.isEmpty = true ↔ ∀ key, panels.isOpen key = false

/-- What opening a panel answers and does. -/
structure Opens (panels : PanelSet) (panel : Panel) : Prop where
  replaced : (panels.insert panel).1 = panels.get? panel.key
  found : (panels.insert panel).2.get? panel.key = some panel
  last : (panels.insert panel).2.toList.getLast? = some panel
  others : ∀ key ≠ panel.key, (panels.insert panel).2.get? key = panels.get? key
  order : (panels.insert panel).2.elsewhere panel.key = panels.elsewhere panel.key

/-- What closing a place answers and does. -/
structure Closes (panels : PanelSet) (key : PanelKey) : Prop where
  removed : (panels.close key).1 = panels.get? key
  /-- What is answered is what is taken out. -/
  taken : ∀ panel, (panels.close key).1 = some panel → ∃ front back,
    panels.toList = front ++ panel :: back ∧ (panels.close key).2.toList = front ++ back
  absent : (panels.close key).2.get? key = none
  others : ∀ other ≠ key, (panels.close key).2.get? other = panels.get? other
  order : (panels.close key).2.elsewhere key = panels.elsewhere key
  /-- A place where nothing is open is closed already. -/
  closed : panels.isOpen key = false → panels.close key = (none, panels)

namespace Distinct

/-- There are as many panels as places at which one is open. -/
lemma size_eq (hdistinct : panels.Distinct) :
    panels.size = {key | panels.isOpen key = true}.ncard := by
  have hplaces : {key | panels.isOpen key = true} =
      ((panels.toList.map Panel.key).toFinset : Set PanelKey) := by
    ext key
    simp [isOpen_iff]
  rw [hplaces, Set.ncard_coe_finset, List.toFinset_card_of_nodup hdistinct, List.length_map, size]

lemma agrees (hdistinct : panels.Distinct) : panels.Agrees where
  keys := hdistinct
  get? _ _ := hdistinct.get?_eq_some_iff
  isOpen _ := Option.isSome_iff_exists
  require _ _ := require_eq_ok_iff
  missing key := by
    unfold PanelSet.require PanelSet.isOpen
    cases panels.get? key <;> simp
  size := hdistinct.size_eq
  isEmpty := by
    simp only [PanelSet.isEmpty, List.isEmpty_iff, ← Bool.not_eq_true, isOpen_iff]
    constructor
    · rintro hnone key ⟨panel, hmem, -⟩
      simp [hnone] at hmem
    · intro hnone
      exact List.eq_nil_iff_forall_not_mem.mpr fun panel hmem => hnone panel.key ⟨panel, hmem, rfl⟩

lemma opens (hdistinct : panels.Distinct) (panel : Panel) : panels.Opens panel := by
  have hnow := hdistinct.insert panel
  have hlist := hdistinct.toList_insert panel
  have horder : (panels.insert panel).2.elsewhere panel.key = panels.elsewhere panel.key := by
    rw [elsewhere, hlist]
    simp [elsewhere]
  refine ⟨rfl, ?_, ?_, ?_, horder⟩
  · exact hnow.get?_eq_some_iff.mpr ⟨by simp, rfl⟩
  · simp
  · exact fun key hother => hdistinct.get?_eq_of_elsewhere hnow horder hother

lemma closes (hdistinct : panels.Distinct) (key : PanelKey) : panels.Closes key := by
  have hnow := hdistinct.close key
  have horder : (panels.close key).2.elsewhere key = panels.elsewhere key := by
    rw [elsewhere, hdistinct.toList_close]
    simp [elsewhere]
  refine ⟨rfl, fun _ => exists_split_of_get?, ?_, ?_, horder, ?_⟩
  · exact get?_eq_none_iff.mpr fun _ hmem => hdistinct.key_ne_of_mem_close hmem
  · exact fun other hother => hdistinct.get?_eq_of_elsewhere hnow horder hother
  · intro hclosed
    have hnone : panels.get? key = none := by simpa [PanelSet.isOpen] using hclosed
    have hlist : panels.elsewhere key = panels.toList := by
      rw [elsewhere, List.filter_eq_self]
      simpa using get?_eq_none_iff.mp hnone
    rw [← hdistinct.toList_close] at hlist
    exact Prod.ext hnone (congrArg PanelSet.mk hlist)

end Distinct

/-- **A map that keeps its order.**  Whatever was done with a set of panels in which none was open,
the panels in it are those that were opened and whose places were not settled since, in the order of
opening.  No place stands in it twice, and however it is asked, it tells of the same panels.
Opening a panel answers with the one that it replaces and puts it last, closing a place answers
with what was open there and leaves nothing, and neither touches another place; a panel that is
called for is left where it is, and so is the set where it is missing. -/
theorem panels_by_place (deeds : List Deed) :
    (after deeds).toList = standing deeds ∧
    (after deeds).Agrees ∧
    (∀ panel, (after deeds).Opens panel) ∧
    (∀ key, (after deeds).Closes key) ∧
    (∀ key, after (deeds ++ [.requires key]) = after deeds) := by
  obtain ⟨hdistinct, hstanding⟩ := distinct_after deeds
  refine ⟨hstanding, hdistinct.agrees, hdistinct.opens, hdistinct.closes, ?_⟩
  intro key
  rw [after_concat]
  rfl

/-- A panel that is opened again moves behind those opened since. -/
example (first second again : String) :
    (after [.opens ⟨.text, .changeAndComment .command, first⟩,
      .opens ⟨.entry 0, .rejection, second⟩, .requires (.entry 1),
      .opens ⟨.text, .changeAndComment .naturalLanguage, again⟩]).toList =
      [⟨.entry 0, .rejection, second⟩, ⟨.text, .changeAndComment .naturalLanguage, again⟩] := by
  rfl

end PanelSet

end AnnotationReview
