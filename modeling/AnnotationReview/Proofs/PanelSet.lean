import AnnotationReview.Panel
import Mathlib.Data.List.Nodup
import Mathlib.Tactic.Lemma

/-!
# Panels by their places

A set of panels is kept as a list, and a place is looked up by the first panel that stands there.
As long as no place stands twice (`Distinct`), that is the only one, and closing a place, which
takes out the first panel, leaves none behind.  Opening and closing keep it so.
-/

namespace AnnotationReview

namespace PanelSet

variable {panels : PanelSet} {panel : Panel} {key other : PanelKey}

/-! ## Looking up a place -/

lemma mem_of_get? (hpanel : panels.get? key = some panel) : panel ∈ panels.toList :=
  List.mem_of_find?_eq_some hpanel

lemma key_of_get? (hpanel : panels.get? key = some panel) : panel.key = key := by
  have hkey := List.find?_some hpanel
  simpa using hkey

lemma get?_eq_none_iff : panels.get? key = none ↔ ∀ panel ∈ panels.toList, panel.key ≠ key := by
  simp [get?, List.find?_eq_none]

lemma isOpen_iff : panels.isOpen key = true ↔ ∃ panel ∈ panels.toList, panel.key = key := by
  simp [isOpen, get?]

lemma require_eq_ok_iff : panels.require key = .ok panel ↔ panels.get? key = some panel := by
  unfold require
  cases panels.get? key <;> simp

/-- An open panel is there for whoever needs it. -/
lemma exists_require (hopen : panels.isOpen key = true) :
    ∃ panel, panels.require key = .ok panel := by
  obtain ⟨panel, hget⟩ := Option.isSome_iff_exists.mp hopen
  exact ⟨panel, require_eq_ok_iff.mpr hget⟩

lemma mem_of_mem_close (hmem : panel ∈ (panels.close key).2.toList) : panel ∈ panels.toList :=
  List.mem_of_mem_eraseP hmem

/-- Closing takes out the panel that is found and moves no other. -/
lemma exists_split_of_get? (hpanel : panels.get? key = some panel) : ∃ front back,
    panels.toList = front ++ panel :: back ∧ (panels.close key).2.toList = front ++ back := by
  obtain ⟨hkey, front, back, hlist, hfront⟩ := List.find?_eq_some_iff_append.mp hpanel
  refine ⟨front, back, hlist, ?_⟩
  rw [toList_close, hlist, List.eraseP_append_right _ (by simpa using hfront),
    List.eraseP_cons_of_pos (by simpa using hkey)]

/-! ## One panel at a place -/

/-- No place stands twice. -/
def Distinct (panels : PanelSet) : Prop :=
  (panels.toList.map Panel.key).Nodup

/-- The panels at all other places, in their order. -/
def elsewhere (panels : PanelSet) (key : PanelKey) : List Panel :=
  panels.toList.filter (·.key != key)

lemma mem_elsewhere : panel ∈ panels.elsewhere key ↔ panel ∈ panels.toList ∧ panel.key ≠ key := by
  simp [elsewhere]

namespace Distinct

/-- The panel that is found at a place is the one that stands there. -/
lemma get?_eq_some_iff (hdistinct : panels.Distinct) :
    panels.get? key = some panel ↔ panel ∈ panels.toList ∧ panel.key = key := by
  constructor
  · exact fun hget => ⟨mem_of_get? hget, key_of_get? hget⟩
  · rintro ⟨hmem, rfl⟩
    obtain ⟨found, hfound⟩ := Option.isSome_iff_exists.mp (isOpen_iff.mpr ⟨panel, hmem, rfl⟩)
    have hsame := List.inj_on_of_nodup_map hdistinct (mem_of_get? hfound) hmem
      (key_of_get? hfound)
    rw [hfound, hsame]

/-- Closing a place takes out all that stands there, since it is only one panel. -/
lemma toList_close (hdistinct : panels.Distinct) (key : PanelKey) :
    (panels.close key).2.toList = panels.elsewhere key := by
  rw [PanelSet.toList_close, elsewhere]
  rw [Distinct] at hdistinct
  generalize panels.toList = list at hdistinct
  induction list with
  | nil => rfl
  | cons first rest ih =>
    obtain ⟨hfirst, hrest⟩ := List.nodup_cons.mp hdistinct
    by_cases hkey : first.key = key
    · have hothers : ∀ panel ∈ rest, (panel.key != key) = true := by
        intro panel hmem
        rw [bne_iff_ne]
        rintro rfl
        exact hfirst (hkey ▸ List.mem_map_of_mem hmem)
      rw [List.eraseP_cons_of_pos (by simp [hkey]), List.filter_cons_of_neg (by simp [hkey]),
        List.filter_eq_self.mpr hothers]
    · rw [List.eraseP_cons_of_neg (by simp [hkey]), List.filter_cons_of_pos (by simp [hkey]),
        ih hrest]

lemma toList_insert (hdistinct : panels.Distinct) (panel : Panel) :
    (panels.insert panel).2.toList = panels.elsewhere panel.key ++ [panel] := by
  rw [← hdistinct.toList_close]
  rfl

lemma close (hdistinct : panels.Distinct) (key : PanelKey) : (panels.close key).2.Distinct :=
  hdistinct.sublist (List.eraseP_sublist.map _)

/-- No panel is left at a place that was closed. -/
lemma key_ne_of_mem_close (hdistinct : panels.Distinct)
    (hmem : panel ∈ (panels.close key).2.toList) : panel.key ≠ key := by
  rw [hdistinct.toList_close] at hmem
  exact (mem_elsewhere.mp hmem).2

lemma insert (hdistinct : panels.Distinct) (panel : Panel) : (panels.insert panel).2.Distinct := by
  rw [Distinct, PanelSet.toList_insert, List.map_append, List.nodup_append]
  refine ⟨hdistinct.close panel.key, by simp, ?_⟩
  intro key hkey other hother
  obtain ⟨left, hleft, rfl⟩ := List.mem_map.mp hkey
  obtain rfl : other = panel.key := by simpa using hother
  exact hdistinct.key_ne_of_mem_close hleft

/-- Sets with the same panels elsewhere have the same panel open at each other place. -/
lemma get?_eq_of_elsewhere {later : PanelSet} (hdistinct : panels.Distinct)
    (hlater : later.Distinct) (helsewhere : later.elsewhere key = panels.elsewhere key)
    (hother : other ≠ key) : later.get? other = panels.get? other := by
  have hstands : ∀ panel, panel.key = other → (panel ∈ later.toList ↔ panel ∈ panels.toList) := by
    rintro panel rfl
    have hmem : panel ∈ later.elsewhere key ↔ panel ∈ panels.elsewhere key := by rw [helsewhere]
    rwa [mem_elsewhere, mem_elsewhere, and_iff_left hother, and_iff_left hother] at hmem
  refine Option.ext fun panel => ?_
  rw [hlater.get?_eq_some_iff, hdistinct.get?_eq_some_iff]
  exact and_congr_left (hstands panel)

end Distinct

end PanelSet

end AnnotationReview
