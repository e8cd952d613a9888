import AnnotationReview.Proofs.Atomicity
import AnnotationReview.Proofs.Confirmation
import AnnotationReview.Proofs.History
import AnnotationReview.Proofs.Markup.Identity
import Mathlib.Data.List.Find
import Mathlib.Data.List.Nodup

/-!
# Panels are never left behind

The markup looks for the panel of the text by its kind, and for the panel of an entry only where it
shows that entry.  So a panel whose entry is gone or hidden would stay open and never be shown.
That this does not happen is an invariant of runs (`View.Attached`): an entry with an open panel is
there and shown, its status is known, and somebody else has proposed it.  What closes or hides an
entry closes its panel, and nothing else that a command does to an entry matters here.

With indices that are not used twice, the invariant gives every open panel its one place in the
markup, and no two elements one identity (`panels_shown_once`).
-/

namespace AnnotationReview

/-! ## Entries that bear a panel -/

/-- The entry is found under the index, it is shown with a known status, and it was proposed by
somebody other than the viewer. -/
structure Thread.Bears (thread : Thread) (viewer : String) (index : UInt32) (entry : Entry) :
    Prop where
  found : thread.find? index = some entry
  shown : entry.hidden = false
  known : entry.status.isSome = true
  foreign : entry.update.proposer ≠ viewer

namespace Thread

variable {thread : Thread} {viewer : String} {index : UInt32}

/-- A look-up leaves every entry where it is, and changes the status of the one it is about. -/
lemma Bears.noting {entry : Entry} (hentry : thread.Bears viewer index entry) (target : UInt32)
    (status? : Option Status) : (thread.noting target status?).Bears viewer index
      (if target = index then entry.noting status? else entry) := by
  cases status? with
  | none =>
    rw [show entry.noting none = entry from rfl, ite_self]
    exact hentry
  | some status =>
    refine ⟨find?_modify hentry.found (fun _ => by rfl) target, ?_, ?_, ?_⟩
    · by_cases htarget : target = index <;> simp [htarget, Entry.noting, hentry.shown]
    · by_cases htarget : target = index <;> simp [htarget, Entry.noting, hentry.known]
    · by_cases htarget : target = index <;> simp [htarget, Entry.noting, hentry.foreign]

lemma Bears.append {entry : Entry} (hentry : thread.Bears viewer index entry) (update : Update) :
    (thread.append update).2.Bears viewer index entry :=
  ⟨find?_append hentry.found update, hentry.shown, hentry.known, hentry.foreign⟩

/-- What is done to another entry leaves the entry as it is. -/
lemma Bears.modify {entry : Entry} (hentry : thread.Bears viewer index entry) {target : UInt32}
    (htarget : target ≠ index) {change : Entry → Entry}
    (hchange : ∀ entry, (change entry).index = entry.index) :
    (thread.modify target change).Bears viewer index entry := by
  have hfound := find?_modify hentry.found hchange target
  rw [if_neg htarget] at hfound
  exact ⟨hfound, hentry.shown, hentry.known, hentry.foreign⟩

lemma Bears.erase {entry : Entry} (hentry : thread.Bears viewer index entry) {target : UInt32}
    (htarget : target ≠ index) : (thread.erase target).Bears viewer index entry :=
  ⟨find?_erase hentry.found htarget, hentry.shown, hentry.known, hentry.foreign⟩

end Thread

/-- Whoever may reject an entry may have a panel on it. -/
lemma View.bears_of_actionable {view : View} {index : UInt32} {entry : Entry}
    (hentry : view.actionable index .reject = .ok entry) :
    view.thread.Bears view.viewer index entry := by
  obtain ⟨hget, hlive, hrole⟩ := View.actionable_eq_ok_iff.mp hentry
  obtain ⟨hopened, hshown⟩ := Entry.isLive_iff.mp hlive
  have hforeign := Entry.retract_iff_of_authorize hrole
  refine ⟨Thread.get_eq_ok_iff.mp hget, hshown, by rw [hopened, Option.isSome_some], ?_⟩
  intro hsame
  cases hforeign.mpr hsame

/-! ## The invariant -/

/-- Every entry with an open panel is one that can have a panel. -/
def View.Attached (view : View) : Prop :=
  ∀ panel ∈ view.panels.toList, ∀ index, panel.key = .entry index →
    ∃ entry, view.thread.Bears view.viewer index entry

namespace View.Attached

variable {now next : View}

/-- The invariant is kept where no panel is opened and an entry with a panel still bears it. -/
lemma mono (hnow : now.Attached) (hviewer : next.viewer = now.viewer)
    (hpanels : ∀ panel ∈ next.panels.toList, panel ∈ now.panels.toList)
    (hthread : ∀ {index entry}, (∃ panel ∈ next.panels.toList, panel.key = .entry index) →
      now.thread.Bears now.viewer index entry →
      ∃ late, next.thread.Bears now.viewer index late) : next.Attached := by
  intro panel hmem index hkey
  obtain ⟨entry, hentry⟩ := hnow panel (hpanels panel hmem) index hkey
  rw [hviewer]
  exact hthread ⟨panel, hmem, hkey⟩ hentry

/-- The invariant is about the viewer, the panels and the thread alone. -/
lemma congr (hnow : now.Attached) (hviewer : next.viewer = now.viewer)
    (hpanels : next.panels = now.panels) (hthread : next.thread = now.thread) : next.Attached := by
  refine hnow.mono hviewer (by simp [hpanels]) fun _ hentry => ?_
  rw [hthread]
  exact ⟨_, hentry⟩

lemma closePanel (hnow : now.Attached) (key : PanelKey) : (now.closePanel key).Attached :=
  hnow.mono rfl (fun _ => PanelSet.mem_of_mem_close) fun _ hentry => ⟨_, hentry⟩

/-- A panel may be opened where the entry can bear it. -/
lemma insert (hnow : now.Attached) {panel : Panel}
    (hpanel : ∀ index, panel.key = .entry index →
      ∃ entry, now.thread.Bears now.viewer index entry)
    (hviewer : next.viewer = now.viewer) (hpanels : next.panels = (now.panels.insert panel).2)
    (hthread : next.thread = now.thread) : next.Attached := by
  intro other hmem index hkey
  rw [hpanels, PanelSet.toList_insert, List.mem_append, List.mem_singleton] at hmem
  rw [hviewer, hthread]
  rcases hmem with hmem | rfl
  · exact hnow other (PanelSet.mem_of_mem_close hmem) index hkey
  · exact hpanel index hkey

/-- An entry may be withdrawn if its panel is closed. -/
lemma withdraw (hnow : now.Attached) (horderly : now.panels.Orderly) {target : UInt32}
    (hviewer : next.viewer = now.viewer)
    (hpanels : next.panels = (now.panels.close (.entry target)).2)
    (hthread : ∀ {index entry}, target ≠ index → now.thread.Bears now.viewer index entry →
      next.thread.Bears now.viewer index entry) : next.Attached := by
  refine hnow.mono hviewer ?_ ?_
  · rw [hpanels]
    exact fun _ => PanelSet.mem_of_mem_close
  · rintro index entry ⟨panel, hmem, hkey⟩ hentry
    rw [hpanels] at hmem
    have hother : target ≠ index := by
      rintro rfl
      exact horderly.distinct.key_ne_of_mem_close hmem hkey
    exact ⟨entry, hthread hother hentry⟩

end View.Attached

namespace Review

open Backend.Dialogue (Exchange Path)

section

variable {now next : View} {command : Command} {exchanges : List Exchange}
  {result : Except Error CommandResult}

/-- However an append goes on, its look-up leaves the panels attached. -/
lemma LookUp.attached {base after : View} {index : UInt32} {entry : Entry}
    {lookUps : List Exchange} {ending : Ending (Option Status)}
    (hlookUp : LookUp base index entry lookUps ending after) (hbase : base.Attached) :
    (ending.settled after).Attached := by
  obtain ⟨status?, notice, hsettled, -⟩ := hlookUp.exists_settled
  rw [hsettled]
  exact hbase.mono rfl (fun _ => id) fun _ hentry => ⟨_, hentry.noting index status?⟩

/-- Every course leaves the panels attached. -/
lemma attached_of_course (hcourse : Course now command exchanges result next)
    (horderly : now.panels.Orderly) (hnow : now.Attached) : next.Attached := by
  cases hcourse with
  | rejectionOpened hentry =>
    refine hnow.insert ?_ rfl rfl rfl
    rintro index ⟨⟩
    exact ⟨_, View.bears_of_actionable hentry⟩
  | rejectionStarted hentry =>
    refine hnow.insert ?_ rfl rfl rfl
    rintro index ⟨⟩
    exact ⟨_, View.bears_of_actionable hentry⟩
  | editOpened =>
    refine hnow.insert ?_ rfl rfl rfl
    rintro index ⟨⟩
  | rejectionCancelled => exact hnow.closePanel _
  | editCancelled => exact (hnow.closePanel .text).congr rfl rfl rfl
  | refreshed hget hlookUp => exact hlookUp.attached hnow
  | editSaved hedit hget hlookUp =>
    refine hlookUp.attached ((hnow.closePanel .text).mono rfl (fun _ => id) ?_)
    exact fun _ hentry => ⟨_, hentry.append _⟩
  | @rejectionSaved index _ target submission saved _ _ _ _ hreply rejected hget hlookUp =>
    have hreplied : (now.replied index (.ofSaved saved submission .author)).Attached := by
      refine (hnow.closePanel (.entry index)).mono rfl (fun _ => id) ?_
      intro other entry _ hentry
      exact ⟨_, (hentry.noting index (some .rejected)).append _⟩
    refine hlookUp.attached (hreplied.congr ?_ ?_ ?_) <;> cases rejected <;> rfl
  | accepted => exact hnow.withdraw horderly rfl rfl fun hother hentry =>
      hentry.modify hother fun _ => rfl
  | retracted => exact hnow.withdraw horderly rfl rfl fun hother hentry => hentry.erase hother
  | _ => exact hnow.congr rfl rfl rfl

end

end Review

/-! ## Panels in the markup -/

namespace Markup

variable {view : View}

/-- What is found by its kind is what stands at the text. -/
lemma editPanel?_eq_get? (horderly : view.panels.Orderly) :
    editPanel? view = view.panels.get? .text := by
  have hkind : ∀ panel ∈ view.panels.toList,
      panel.kind.target?.isSome = (panel.key == .text) := by
    intro panel hmem
    have hfits := horderly.fits panel hmem
    rw [Panel.Fits] at hfits
    obtain ⟨key, kind, placeholder⟩ := panel
    cases kind <;> cases key <;> simp_all [PanelKind.target?]
  exact List.find?_congr hkind

/-- The indices of shown entries differ. -/
lemma pairwise_visible (hordered : view.thread.Ordered) :
    view.thread.visible.Pairwise fun first second => first.index ≠ second.index := by
  have hincreasing := List.pairwise_map.mp hordered.increasing
  refine (hincreasing.sublist List.filter_sublist).imp ?_
  intro first second hless hsame
  rw [hsame] at hless
  exact UInt32.lt_irrefl _ hless

/-- Something is in the markup of an entry once at most. -/
lemma nodup_entryRoles (view : View) (entry : Entry) : (view.entryRoles entry).Nodup := by
  unfold View.entryRoles
  cases view.controls entry <;> cases view.panels.isOpen (.entry entry.index) <;>
    simp [Controls.roles]

lemma panel_mem_entryRoles (view : View) (entry : Entry) :
    Role.panel ∈ view.entryRoles entry ↔ view.panels.isOpen (.entry entry.index) = true := by
  unfold View.entryRoles
  cases view.controls entry <;> simp [Controls.roles]

/-- A panel is shown where it is open: at the text, or at its entry, which is shown. -/
lemma panel_mem_anchors (horderly : view.panels.Orderly) (hattached : view.Attached)
    (key : PanelKey) : (⟨.panel, key⟩ : Anchor) ∈ view.anchors ↔ view.panels.isOpen key = true := by
  rw [View.anchors, editPanel?_eq_get? horderly, List.mem_append, PanelSet.isOpen,
    Option.isSome_iff_exists]
  constructor
  · rintro (htext | hentries)
    · obtain ⟨panel, hpanel, hsame⟩ := List.mem_map.mp htext
      rw [Option.mem_toList] at hpanel
      have hplace : panel.key = key := congrArg Anchor.place hsame
      rw [← hplace, PanelSet.key_of_get? hpanel]
      exact ⟨panel, hpanel⟩
    · obtain ⟨entry, -, hentry⟩ := List.mem_flatMap.mp hentries
      obtain ⟨role, hrole, hsame⟩ := List.mem_map.mp hentry
      cases hsame
      exact Option.isSome_iff_exists.mp ((panel_mem_entryRoles view entry).mp hrole)
  · rintro ⟨panel, hpanel⟩
    cases key with
    | text =>
      refine .inl (List.mem_map.mpr ⟨panel, Option.mem_toList.mpr hpanel, ?_⟩)
      rw [PanelSet.key_of_get? hpanel]
    | entry index =>
      obtain ⟨entry, hentry⟩ :=
        hattached panel (PanelSet.mem_of_get? hpanel) index (PanelSet.key_of_get? hpanel)
      have hindex := Thread.index_of_find? hentry.found
      have hvisible : entry ∈ view.thread.visible := by
        refine List.mem_filter.mpr ⟨List.mem_of_find?_eq_some hentry.found, ?_⟩
        rw [hentry.shown, Bool.not_false]
      refine .inr (List.mem_flatMap.mpr ⟨entry, hvisible, List.mem_map.mpr ⟨.panel, ?_, ?_⟩⟩)
      · rw [panel_mem_entryRoles, hindex, PanelSet.isOpen, hpanel, Option.isSome_some]
      · rw [hindex]

lemma nodup_anchors (horderly : view.panels.Orderly) (hordered : view.thread.Ordered) :
    view.anchors.Nodup := by
  have hentries : (view.thread.visible.flatMap fun entry =>
      (view.entryRoles entry).map fun role =>
        (⟨role, .entry entry.index⟩ : Anchor)).Nodup := by
    rw [List.nodup_flatMap]
    constructor
    · intro entry _
      refine (nodup_entryRoles view entry).map ?_
      rintro first second ⟨⟩
      rfl
    · refine (pairwise_visible hordered).imp ?_
      intro first second hother anchor hfirst hsecond
      obtain ⟨role, -, rfl⟩ := List.mem_map.mp hfirst
      obtain ⟨_, -, hsame⟩ := List.mem_map.mp hsecond
      have hplace := congrArg Anchor.place hsame
      exact hother (PanelKey.entry.inj hplace).symm
  have hpanel : ((editPanel? view).toList.map fun panel =>
      (⟨.panel, panel.key⟩ : Anchor)).Nodup := by
    cases editPanel? view <;> simp
  refine List.nodup_append.mpr ⟨hpanel, hentries, ?_⟩
  rintro anchor hanchor _ hother rfl
  -- the panel of the text is no entry's
  obtain ⟨panel, hmem, rfl⟩ := List.mem_map.mp hanchor
  rw [editPanel?_eq_get? horderly, Option.mem_toList] at hmem
  obtain ⟨entry, -, hentry⟩ := List.mem_flatMap.mp hother
  obtain ⟨role, -, hsame⟩ := List.mem_map.mp hentry
  have hplace := congrArg Anchor.place hsame
  rw [PanelSet.key_of_get? hmem] at hplace
  cases hplace

/-- An identity is borne once where it is borne at all. -/
lemma count_panel (horderly : view.panels.Orderly) (hattached : view.Attached)
    (hordered : view.thread.Ordered) (key : PanelKey) :
    (identities (annotationNode view).tags).count ("comment-panel-" ++ placeText key) =
      if view.panels.isOpen key then 1 else 0 := by
  have hnodup := (nodup_anchors horderly hordered).map Anchor.text_injective
  have hanchor : "comment-panel-" ++ placeText key = Anchor.text ⟨.panel, key⟩ := rfl
  rw [identities_annotationNode, hanchor, hnodup.count]
  simp only [List.mem_map_of_injective Anchor.text_injective,
    panel_mem_anchors horderly hattached]

end Markup

/-! ## The theorem -/

/-- The panel of the text explains an edit that may still be sent; the panel of an entry explains
its rejection, and its entry is shown with a known status and not the viewer's own. -/
def Panel.Belongs (panel : Panel) (view : View) : Prop :=
  match panel.key with
  | .text => (∃ target, panel.kind = .changeAndComment target) ∧ view.editOffered = true
  | .entry index => panel.kind = .rejection ∧
    ∃ entry, view.thread.Bears view.viewer index entry

lemma View.Attached.belongs {annotationId viewer : String} {view : View}
    (hattached : view.Attached) (hconsistent : view.Consistent annotationId viewer) :
    ∀ panel ∈ view.panels.toList, panel.Belongs view := by
  intro panel hmem
  have hfits := hconsistent.panels.fits panel hmem
  have hoffered := hconsistent.edit panel hmem
  have hentry := hattached panel hmem
  unfold Panel.Fits at hfits
  unfold Panel.Belongs
  cases hkey : panel.key with
  | text =>
    refine ⟨?_, hoffered hkey⟩
    cases hkind : panel.kind with
    | rejection => exact absurd hkind (hfits.mp hkey)
    | changeAndComment target => exact ⟨target, rfl⟩
  | entry index =>
    refine ⟨?_, hentry index hkey⟩
    by_contra hkind
    rw [hfits.mpr hkind] at hkey
    cases hkey

namespace Review

open Backend.Dialogue (Exchange Path)
open Markup

/-- **Panels are never left behind, and each is shown once.**  After a mount and any commands that
append fewer than `UInt32.size` entries, whatever the backend answers, no two panels are open at one
place, and every open panel belongs to the text or to an entry that can have one.  In the markup as
it is read back, no two elements have one identity, and an element has the identity of a panel where
that panel is open and nowhere else. -/
theorem panels_shown_once {annotationId viewer text : String} {loading : List Exchange}
    {mounted now : View} {past : List Event}
    (hmount : Mounts annotationId viewer text loading mounted) (hpast : Run mounted past now)
    (hfew : appendsOf (loading ++ trace past) < UInt32.size) :
    (now.panels.toList.map Panel.key).Nodup ∧
      (∀ panel ∈ now.panels.toList, panel.Belongs now) ∧
      ∃ tags, tags? now.render = some tags ∧ (identities tags).Nodup ∧
        ∀ key, (identities tags).count ("comment-panel-" ++ placeText key) =
          if now.panels.isOpen key then 1 else 0 := by
  rw [appendsOf_append] at hfew
  have hmounted := mountedAs_of_mounts hmount
  have hinvariant : now.Consistent annotationId viewer ∧ now.Attached := by
    refine hpast.inv (P := fun view => view.Consistent annotationId viewer ∧ view.Attached) ?_ ?_
    · rintro before after command exchanges result hcourse ⟨hconsistent, hattached⟩
      exact ⟨consistent_of_course hcourse hconsistent,
        attached_of_course hcourse hconsistent.panels hattached⟩
    · refine ⟨hmounted.consistent, ?_⟩
      obtain ⟨thread, notice, rfl⟩ := hmounted.fresh
      intro panel hmem
      cases hmem
  obtain ⟨hconsistent, hattached⟩ := hinvariant
  have horderly := hconsistent.panels
  obtain ⟨hordered, -⟩ := ordered_of_mounts hmount hpast hfew
  have hnodup : (identities (annotationNode now).tags).Nodup := by
    rw [identities_annotationNode]
    exact (nodup_anchors horderly hordered).map Anchor.text_injective
  exact ⟨horderly.keys, hattached.belongs hconsistent, _, tags?_render now, hnodup,
    count_panel horderly hattached hordered⟩

/-- While the rejection of an entry is written, its panel is shown, and that of the text is not. -/
theorem panels_shown_while_rejecting :
    (rejecting.panels.toList.map Panel.key).Nodup ∧
      (∀ panel ∈ rejecting.panels.toList, panel.Belongs rejecting) ∧
      ∃ tags, tags? rejecting.render = some tags ∧ (identities tags).Nodup ∧
        (identities tags).count "comment-panel-0" = 1 ∧
        (identities tags).count "comment-panel-edit" = 0 := by
  obtain ⟨hkeys, hbelong, tags, htags, hnodup, hcount⟩ :=
    panels_shown_once mounts_reviewing (.cons path_rejecting (.nil rejecting)) (by decide)
  exact ⟨hkeys, hbelong, tags, htags, hnodup, hcount (.entry 0), hcount .text⟩

end Review

end AnnotationReview
