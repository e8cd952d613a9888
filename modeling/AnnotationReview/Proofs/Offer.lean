import AnnotationReview.Host.Snapshot
import AnnotationReview.Proofs.Resolution
import AnnotationReview.Proofs.Panel
import AnnotationReview.Proofs.Submission

/-!
# What is offered is what is permitted

What may be done to an entry is said in four places: in the list of controls that a caller is told,
by the buttons of the markup, by the rules that stand before a decision, and by the rule that opens
a rejection panel.  They are read here each for itself — the list from the JSON of a snapshot, the
buttons from the written markup, the rules from the paths of the commands — and they agree
(`offered_iff_permitted`).

All of it comes down to what a view offers for an index (`View.offers`): the controls of the one
shown entry that has it.  That there is one at most is due to the order of the thread; without it
the list could speak of one entry and the rules of another.
-/

namespace AnnotationReview

open Backend.Dialogue (Exchange Path)

/-! ## Controls and rules -/

namespace Entry

variable {entry : Entry} {viewer : String} {panelOpen : Bool}

/-- Taking back is offered where it is allowed. -/
lemma controlsFor_eq_retract_iff : entry.controlsFor viewer panelOpen = .retract ↔
    entry.isLive = true ∧ entry.authorize viewer .retract = .ok () := by
  unfold controlsFor authorize
  cases entry.isLive <;> cases entry.proposedBy viewer <;> simp

/-- A review is offered where accepting is allowed, and rejecting is disabled by an open panel. -/
lemma controlsFor_eq_review_iff {rejectEnabled : Bool} :
    entry.controlsFor viewer panelOpen = .review rejectEnabled ↔
      (entry.isLive = true ∧ entry.authorize viewer .accept = .ok ()) ∧
        rejectEnabled = !panelOpen := by
  unfold controlsFor authorize
  cases entry.isLive <;> cases entry.proposedBy viewer <;> simp [eq_comm]

/-- Everybody has one of the two roles. -/
lemma authorize_retract_or_accept (entry : Entry) (viewer : String) :
    entry.authorize viewer .retract = .ok () ∨ entry.authorize viewer .accept = .ok () := by
  unfold authorize
  cases entry.proposedBy viewer <;> simp

/-- Whoever may accept may reject. -/
lemma authorize_reject_iff : entry.authorize viewer .reject = .ok () ↔
    entry.authorize viewer .accept = .ok () := by
  unfold authorize
  cases entry.proposedBy viewer <;> simp

end Entry

/-- In an ordered thread an index leads to the entry that has it. -/
lemma Thread.Ordered.get_iff {thread : Thread} (hordered : thread.Ordered) {index : UInt32}
    {entry : Entry} :
    thread.get index = .ok entry ↔ entry ∈ thread.entries ∧ entry.index = index := by
  constructor
  · intro hget
    exact ⟨mem_of_get hget, index_of_get hget⟩
  · rintro ⟨hmem, rfl⟩
    obtain ⟨found, hfound⟩ := exists_get_of_mem hmem
    have hnodup : (thread.entries.map Entry.index).Nodup :=
      hordered.increasing.imp fun hless => UInt32.ne_of_lt hless
    have hsame := List.inj_on_of_nodup_map hnodup (mem_of_get hfound) hmem (index_of_get hfound)
    rw [← hsame] at hfound ⊢
    exact hfound

namespace View

variable {view : View} {index : UInt32}

/-- What is offered for an index is what its entry offers, provided it is shown. -/
lemma mem_offers_iff (hordered : view.thread.Ordered) {controls : Controls} :
    (index, controls) ∈ view.offers ↔
      ∃ entry, view.thread.get index = .ok entry ∧ entry.hidden = false ∧
        view.controls entry = controls := by
  rw [offers, List.mem_map]
  constructor
  · rintro ⟨entry, hmem, hoffer⟩
    obtain ⟨hindex, hcontrols⟩ := Prod.mk.inj hoffer
    obtain ⟨hentry, hshown⟩ := List.mem_filter.mp hmem
    exact ⟨entry, hordered.get_iff.mpr ⟨hentry, hindex⟩, by simpa using hshown, hcontrols⟩
  · rintro ⟨entry, hget, hshown, rfl⟩
    obtain ⟨hmem, rfl⟩ := hordered.get_iff.mp hget
    exact ⟨entry, List.mem_filter.mpr ⟨hmem, by simp [hshown]⟩, rfl⟩

lemma retract_mem_offers_iff (hordered : view.thread.Ordered) :
    (index, .retract) ∈ view.offers ↔ ∃ entry, view.actionable index .retract = .ok entry := by
  rw [mem_offers_iff hordered]
  refine exists_congr fun entry => ?_
  rw [actionable_eq_ok_iff, controls, Entry.controlsFor_eq_retract_iff]
  constructor
  · rintro ⟨hget, -, hallowed⟩
    exact ⟨hget, hallowed⟩
  · rintro ⟨hget, hallowed⟩
    exact ⟨hget, (Entry.isLive_iff.mp hallowed.1).2, hallowed⟩

lemma review_mem_offers_iff (hordered : view.thread.Ordered) {rejectEnabled : Bool} :
    (index, .review rejectEnabled) ∈ view.offers ↔
      (∃ entry, view.actionable index .accept = .ok entry) ∧
        rejectEnabled = !view.panels.isOpen (.entry index) := by
  rw [mem_offers_iff hordered]
  constructor
  · rintro ⟨entry, hget, -, hoffered⟩
    obtain ⟨hallowed, henabled⟩ := Entry.controlsFor_eq_review_iff.mp hoffered
    rw [Thread.index_of_get hget] at henabled
    exact ⟨⟨entry, actionable_eq_ok_iff.mpr ⟨hget, hallowed⟩⟩, henabled⟩
  · rintro ⟨⟨entry, hentry⟩, henabled⟩
    obtain ⟨hget, hallowed⟩ := actionable_eq_ok_iff.mp hentry
    refine ⟨entry, hget, (Entry.isLive_iff.mp hallowed.1).2, ?_⟩
    rw [controls, Entry.controlsFor_eq_review_iff, Thread.index_of_get hget]
    exact ⟨hallowed, henabled⟩

lemma exists_actionable_reject_iff :
    (∃ entry, view.actionable index .reject = .ok entry) ↔
      ∃ entry, view.actionable index .accept = .ok entry := by
  simp only [actionable_eq_ok_iff, Entry.authorize_reject_iff]

end View

/-! ## The list of controls -/

/-- The value of a member of an object. -/
def Json.Value.member? (value : Json.Value) (name : String) : Option Json.Value :=
  match value with
  | .object members => (members.find? (·.1 == name)).map Prod.snd
  | _ => none

open Json (Value)

/-- A value speaks of the entry with an index. -/
def Json.Value.SpeaksOf (item : Value) (index : UInt32) : Prop :=
  item.member? "entry" = some (indexToJson index)

/-- There is an item of a kind for the entry with an index. -/
def Lists (items : List Value) (index : UInt32) (kind : String) : Prop :=
  ∃ item ∈ items, item.SpeaksOf index ∧ item.member? "kind" = some (.string kind)

/-- The kind by which controls are told. -/
def Controls.kind : Controls → String
  | .inert => "inert"
  | .review _ => "review"
  | .retract => "retract"

/-- What a caller is told of the controls of an entry. -/
def offerToJson (offer : UInt32 × Controls) : Value :=
  .object (("entry", indexToJson offer.1) :: offer.2.members)

lemma speaksOf_offerToJson {offer : UInt32 × Controls} {index : UInt32} :
    (offerToJson offer).SpeaksOf index ↔ offer.1 = index := by
  have hmember : (offerToJson offer).member? "entry" = some (indexToJson offer.1) := rfl
  rw [Value.SpeaksOf, hmember, Option.some_inj, indexToJson, indexToJson, Value.nat, Value.nat,
    Value.number.injEq, Json.Number.int.injEq, Int.ofNat_inj, UInt32.toNat_inj]

lemma kind_offerToJson (offer : UInt32 × Controls) :
    (offerToJson offer).member? "kind" = some (.string offer.2.kind) := by
  obtain ⟨index, controls⟩ := offer
  cases controls <;> simp [Value.member?, offerToJson, Controls.members, Controls.kind]

/-- The list of controls tells what the view offers. -/
lemma controls_snapshot (view : View) :
    view.snapshot.member? "controls" = some (.array (view.offers.map offerToJson)) := by
  simp [Value.member?, View.snapshot, offerToJson]

lemma lists_iff {view : View} {index : UInt32} {kind : String} :
    Lists (view.offers.map offerToJson) index kind ↔
      ∃ controls, (index, controls) ∈ view.offers ∧ controls.kind = kind := by
  constructor
  · rintro ⟨item, hmem, hindex, hkind⟩
    obtain ⟨⟨_, controls⟩, hoffer, rfl⟩ := List.mem_map.mp hmem
    obtain rfl := speaksOf_offerToJson.mp hindex
    rw [kind_offerToJson] at hkind
    exact ⟨controls, hoffer, Value.string.inj (Option.some.inj hkind)⟩
  · rintro ⟨controls, hoffer, rfl⟩
    exact ⟨_, List.mem_map_of_mem hoffer, speaksOf_offerToJson.mpr rfl, kind_offerToJson _⟩

/-! ## The buttons -/

namespace Markup

/-- A button as its reader knows it: what it does, and whether it can be pressed. -/
structure Button where
  action : String
  enabled : Bool
deriving DecidableEq, Repr

/-- The button of an entry that a tag opens. -/
def Tag.button? (index : UInt32) (tag : Tag) : Option Button :=
  if tag.name = "button" ∧ tag.value? "data-entry" = some (indexText index) then
    (tag.value? "data-action").map fun action => ⟨action, !tag.flagged "disabled"⟩
  else none

/-- The buttons of an entry among tags. -/
def buttons (tags : List Tag) (index : UInt32) : List Button :=
  tags.filterMap (Tag.button? index)

/-- There is a button with an action for the entry with an index. -/
def Shows (tags : List Tag) (index : UInt32) (action : String) : Prop :=
  ∃ button ∈ buttons tags index, button.action = action

end Markup

open Markup

/-- The buttons that go with controls. -/
def Controls.buttons : Controls → List Button
  | .inert => []
  | .review rejectEnabled => [⟨"change", false⟩, ⟨"reject", rejectEnabled⟩, ⟨"accept", true⟩]
  | .retract => [⟨"retract", true⟩]

namespace Markup

lemma buttons_nil (index : UInt32) : buttons [] index = [] := rfl

lemma buttons_append (front back : List Tag) (index : UInt32) :
    buttons (front ++ back) index = buttons front index ++ buttons back index :=
  List.filterMap_append

lemma button?_of_other {tag : Tag} (hother : tag.value? "data-entry" = none) (index : UInt32) :
    tag.button? index = none := by
  simp [Tag.button?, hother]

lemma buttons_cons_of_other {tag : Tag} (hother : tag.value? "data-entry" = none)
    (tags : List Tag) (index : UInt32) : buttons (tag :: tags) index = buttons tags index :=
  List.filterMap_cons_none (button?_of_other hother index)

lemma buttons_of_plain {tags : List Tag} (hplain : ∀ tag ∈ tags, tag.Plain) (index : UInt32) :
    buttons tags index = [] :=
  List.filterMap_eq_nil_iff.mpr fun tag hmem => button?_of_other (hplain tag hmem).entry index

lemma buttons_panelNodes (panel? : Option Panel) (index : UInt32) :
    buttons (Node.tagsAll (panelNodes panel?)) index = [] := by
  cases panel? with
  | none => rfl
  | some panel =>
    obtain ⟨opening, inner, htags, -, hother, hplain⟩ := tags_panelNode panel
    rw [panelNodes, Node.tagsAll, Node.tagsAll, List.append_nil, htags,
      buttons_cons_of_other hother, buttons_of_plain hplain]

lemma buttons_entryButton (target : UInt32) (className verb label : String) (enabled : Bool)
    (index : UInt32) :
    buttons (entryButton target className verb label enabled).tags index =
      if target = index then [⟨verb, enabled⟩] else [] := by
  have htext : indexText target = indexText index ↔ target = index :=
    ⟨indexText_injective, congrArg indexText⟩
  by_cases htarget : target = index <;> cases enabled <;>
    simp [entryButton, buttons, Tag.button?, buttonAttributes, attr, Node.tags, Node.tagsAll,
      Tag.value?, Tag.flagged, htext, htarget]

lemma buttons_controlNodes (target : UInt32) (controls : Controls) (index : UInt32) :
    buttons (Node.tagsAll (controlNodes target controls)) index =
      if target = index then controls.buttons else [] := by
  by_cases htarget : target = index <;> cases controls <;>
    simp [controlNodes, Controls.buttons, Node.tagsAll, buttons_append, buttons_entryButton,
      buttons_nil, htarget]

/-- The buttons of an entry are those that go with its controls. -/
lemma buttons_entryNode (view : View) (controls : Controls) (entry : Entry) (index : UInt32) :
    buttons (entryNode view controls entry).tags index =
      if entry.index = index then controls.buttons else [] := by
  obtain ⟨item, box, head, htags, -, hbox, hitem, hhead⟩ := tags_entryNode view controls entry
  rw [htags, buttons_cons_of_other hitem.entry, buttons_cons_of_other hbox, buttons_append,
    buttons_append, buttons_of_plain hhead, buttons_panelNodes, buttons_controlNodes,
    List.nil_append, List.append_nil]

/-- The markup of a view has the buttons that go with what the view offers, and no others. -/
lemma mem_buttons_iff {view : View} {index : UInt32} {button : Button} :
    button ∈ buttons (annotationNode view).tags index ↔
      ∃ controls, (index, controls) ∈ view.offers ∧ button ∈ controls.buttons := by
  obtain ⟨head, list, htags, hlist, hhead⟩ := tags_annotationNode view
  rw [htags, buttons_append, buttons_append, buttons_of_plain hhead, buttons_panelNodes,
    buttons_cons_of_other hlist.entry, List.nil_append, List.nil_append, buttons,
    List.filterMap_flatMap, List.mem_flatMap]
  constructor
  · rintro ⟨entry, hentry, hbutton⟩
    change button ∈ buttons _ index at hbutton
    rw [buttons_entryNode] at hbutton
    split at hbutton
    next hindex =>
      refine ⟨view.controls entry, List.mem_map.mpr ⟨entry, hentry, ?_⟩, hbutton⟩
      rw [hindex]
    next => cases hbutton
  · rintro ⟨controls, hoffer, hbutton⟩
    obtain ⟨entry, hentry, hsame⟩ := List.mem_map.mp hoffer
    obtain ⟨hindex, rfl⟩ := Prod.mk.inj hsame
    refine ⟨entry, hentry, ?_⟩
    show button ∈ buttons _ index
    rw [buttons_entryNode, if_pos hindex]
    exact hbutton

end Markup

/-! ## Commands that are refused -/

namespace Review

/-- No rule refuses the command on the view: it puts a call or succeeds. -/
def Command.PassesOn (command : Command) (now : View) : Prop :=
  ∀ {exchanges result next}, Path (command.operation now) exchanges (result, next) →
    ¬(⟨command, exchanges, result⟩ : Event).Refused

/-- The command is refused on the view, and nothing is sent. -/
def Command.RefusedOn (command : Command) (now : View) : Prop :=
  ∀ {exchanges result next}, Path (command.operation now) exchanges (result, next) →
    (⟨command, exchanges, result⟩ : Event).Refused

/-- The command succeeds on the view. -/
def Command.SucceedsOn (command : Command) (now : View) : Prop :=
  ∀ {exchanges result next}, Path (command.operation now) exchanges (result, next) →
    ∃ value, result = .ok value

variable {now : View} {command : Command} {index : UInt32}

/-- A command that puts no call and fails was refused by its rules. -/
lemma check_of_course {exchanges : List Exchange} {result : Except Error CommandResult}
    {next : View} (hcourse : Course now command exchanges result next)
    (hrefused : (⟨command, exchanges, result⟩ : Event).Refused) :
    ∃ error, command.check now = .error error := by
  obtain ⟨hnone, failure, hfailure⟩ := hrefused
  change exchanges = [] at hnone
  change result = .error (.domain failure) at hfailure
  cases hcourse with
  | refused hcheck => exact ⟨_, hcheck⟩
  | refreshed hget hlookUp =>
    obtain ⟨outcome, rfl⟩ := hlookUp.exists_exchanges
    cases hnone
  | _ => first | exact absurd hnone (List.cons_ne_nil _ _) | cases hfailure

/-- What the rules in front of a command say is what becomes of it. -/
lemma passesOn_iff : command.PassesOn now ↔ command.check now = .ok () := by
  constructor
  · intro hpasses
    cases hcheck : command.check now with
    | ok => rfl
    | error error => exact absurd ⟨rfl, error, rfl⟩ (hpasses (path_of_refused hcheck))
  · intro hcheck exchanges result next hpath hrefused
    obtain ⟨error, herror⟩ := check_of_course (course_of_path hpath) hrefused
    rw [hcheck] at herror
    cases herror

lemma map_eq_ok_iff {α : Type} {rule : Except DomainError α} :
    (rule.map fun _ => ()) = .ok () ↔ ∃ value, rule = .ok value := by
  cases rule <;> simp [Except.map]

/-- The rejection panel of an entry opens where the entry may be rejected. -/
lemma openRejectionPanel_succeedsOn_iff {placeholder : String} :
    (Command.openRejectionPanel index placeholder).SucceedsOn now ↔
      ∃ entry, now.actionable index .reject = .ok entry := by
  constructor
  · intro hsucceeds
    cases hentry : now.actionable index .reject with
    | ok entry => exact ⟨entry, rfl⟩
    | error error =>
      have hcheck : (Command.openRejectionPanel index placeholder).check now = .error error := by
        simp [Command.check, View.openRejectionPanel, hentry, Except.map, bind, Except.bind]
      obtain ⟨value, hvalue⟩ := hsucceeds (path_of_refused hcheck)
      cases hvalue
  · rintro ⟨entry, hentry⟩ exchanges result next hpath
    cases course_of_path hpath with
    | rejectionOpened => exact ⟨.done, rfl⟩
    | refused hcheck =>
      simp [Command.check, View.openRejectionPanel, hentry, Except.map, bind, Except.bind] at hcheck
      cases hcheck

/-- Where neither accepting nor taking back is allowed, nothing is decided on the entry. -/
lemma refusedOn_of_not_actionable (hordered : now.thread.Ordered)
    (haccept : ¬∃ entry, now.actionable index .accept = .ok entry)
    (hretract : ¬∃ entry, now.actionable index .retract = .ok entry)
    (hdecides : command.Decides index) : command.RefusedOn now := by
  intro exchanges result next hpath
  refine refused_of_course (course_of_path hpath) hdecides fun entry hmem hindex => ?_
  have hget := hordered.get_iff.mpr ⟨hmem, hindex⟩
  by_contra hlive
  rw [Bool.not_eq_false] at hlive
  rcases entry.authorize_retract_or_accept now.viewer with hrole | hrole
  · exact hretract ⟨entry, View.actionable_eq_ok_iff.mpr ⟨hget, hlive, hrole⟩⟩
  · exact haccept ⟨entry, View.actionable_eq_ok_iff.mpr ⟨hget, hlive, hrole⟩⟩

/-! ## The theorem -/

/-- For the entry with an index, the list of controls, the buttons of the markup and the rules say
one thing. -/
structure Agrees (now : View) (items : List Value) (tags : List Tag) (index : UInt32) : Prop where
  retract_shown : Lists items index "retract" ↔ Shows tags index "retract"
  retract_permitted : Lists items index "retract" ↔ (Command.retract index).PassesOn now
  review_shown : ∀ action ∈ ["accept", "reject", "change"],
    Lists items index "review" ↔ Shows tags index action
  review_permitted : Lists items index "review" ↔ (Command.accept index).PassesOn now
  panel_opens : ∀ placeholder, Lists items index "review" ↔
    (Command.openRejectionPanel index placeholder).SucceedsOn now
  /-- Rejecting is enabled in the list where the button can be pressed and while no rejection is
  being written. -/
  reject_enabled : ∀ item ∈ items, item.SpeaksOf index →
    item.member? "kind" = some (.string "review") →
    ∃ enabled, item.member? "reject_enabled" = some (.bool enabled) ∧
      (∀ button ∈ buttons tags index, button.action = "reject" → button.enabled = enabled) ∧
      (enabled = true ↔
        ∀ panel ∈ now.panels.toList, panel.key = .entry index → panel.kind ≠ .rejection)
  /-- Where nothing is offered nothing is shown, and every decision is refused. -/
  otherwise : ¬Lists items index "retract" → ¬Lists items index "review" →
    (∀ item ∈ items, item.SpeaksOf index → item.member? "kind" = some (.string "inert")) ∧
      (∀ action ∈ ["retract", "accept", "reject", "change"], ¬Shows tags index action) ∧
      ∀ command : Command, command.Decides index → command.RefusedOn now

section

variable {view : View} {index : UInt32}

lemma shows_iff {action : String} :
    Shows (annotationNode view).tags index action ↔
      ∃ controls, (index, controls) ∈ view.offers ∧
        ∃ button ∈ controls.buttons, button.action = action := by
  constructor
  · rintro ⟨button, hbutton, haction⟩
    obtain ⟨controls, hoffer, hmem⟩ := mem_buttons_iff.mp hbutton
    exact ⟨controls, hoffer, button, hmem, haction⟩
  · rintro ⟨controls, hoffer, button, hmem, haction⟩
    exact ⟨button, mem_buttons_iff.mpr ⟨controls, hoffer, hmem⟩, haction⟩

/-- What is listed as to be taken back is offered so. -/
lemma lists_retract_iff :
    Lists (view.offers.map offerToJson) index "retract" ↔ (index, .retract) ∈ view.offers := by
  rw [lists_iff]
  constructor
  · rintro ⟨controls, hoffer, hkind⟩
    cases controls with
    | retract => exact hoffer
    | inert => simp [Controls.kind] at hkind
    | review => simp [Controls.kind] at hkind
  · exact fun hoffer => ⟨.retract, hoffer, rfl⟩

lemma lists_review_iff :
    Lists (view.offers.map offerToJson) index "review" ↔
      ∃ rejectEnabled, (index, .review rejectEnabled) ∈ view.offers := by
  rw [lists_iff]
  constructor
  · rintro ⟨controls, hoffer, hkind⟩
    cases controls with
    | review rejectEnabled => exact ⟨rejectEnabled, hoffer⟩
    | inert => simp [Controls.kind] at hkind
    | retract => simp [Controls.kind] at hkind
  · rintro ⟨rejectEnabled, hoffer⟩
    exact ⟨.review rejectEnabled, hoffer, rfl⟩

lemma shows_retract_iff :
    Shows (annotationNode view).tags index "retract" ↔ (index, .retract) ∈ view.offers := by
  rw [shows_iff]
  constructor
  · rintro ⟨controls, hoffer, hbutton⟩
    cases controls with
    | retract => exact hoffer
    | inert => simp [Controls.buttons] at hbutton
    | review => simp [Controls.buttons] at hbutton
  · exact fun hoffer => ⟨.retract, hoffer, by simp [Controls.buttons]⟩

/-- The three buttons of a review go together. -/
lemma shows_review_iff {action : String} (haction : action ∈ ["accept", "reject", "change"]) :
    Shows (annotationNode view).tags index action ↔
      ∃ rejectEnabled, (index, .review rejectEnabled) ∈ view.offers := by
  rw [shows_iff]
  constructor
  · rintro ⟨controls, hoffer, button, hbutton, rfl⟩
    cases controls with
    | review rejectEnabled => exact ⟨rejectEnabled, hoffer⟩
    | inert => simp [Controls.buttons] at hbutton
    | retract =>
      obtain rfl : button = ⟨"retract", true⟩ := by simpa [Controls.buttons] using hbutton
      simp at haction
  · rintro ⟨rejectEnabled, hoffer⟩
    refine ⟨.review rejectEnabled, hoffer, ?_⟩
    simp only [List.mem_cons, List.not_mem_nil, or_false] at haction
    rcases haction with rfl | rfl | rfl <;> simp [Controls.buttons]

/-- No rejection is being written where no panel is open. -/
lemma isOpen_eq_false_iff (horderly : view.panels.Orderly) :
    view.panels.isOpen (.entry index) = false ↔
      ∀ panel ∈ view.panels.toList, panel.key = .entry index → panel.kind ≠ .rejection := by
  rw [PanelSet.isOpen, Option.isSome_eq_false_iff, Option.isNone_iff_eq_none,
    PanelSet.get?_eq_none_iff]
  refine forall₂_congr fun panel hmem => ?_
  have hfits := horderly.fits panel hmem
  rw [Panel.Fits] at hfits
  constructor
  · exact fun hother hkey => absurd hkey hother
  · intro hkind hkey
    rw [hfits.mpr (hkind hkey)] at hkey
    cases hkey

/-- An item of a review tells whether rejecting is enabled, and so does its button. -/
lemma reject_enabled_of_lists (hordered : view.thread.Ordered) (horderly : view.panels.Orderly)
    {item : Value} (hmem : item ∈ view.offers.map offerToJson) (hindex : item.SpeaksOf index)
    (hkind : item.member? "kind" = some (.string "review")) :
    ∃ enabled, item.member? "reject_enabled" = some (.bool enabled) ∧
      (∀ button ∈ buttons (annotationNode view).tags index,
        button.action = "reject" → button.enabled = enabled) ∧
      (enabled = true ↔
        ∀ panel ∈ view.panels.toList, panel.key = .entry index → panel.kind ≠ .rejection) := by
  obtain ⟨⟨_, controls⟩, hoffer, rfl⟩ := List.mem_map.mp hmem
  obtain rfl := speaksOf_offerToJson.mp hindex
  rw [kind_offerToJson] at hkind
  cases controls with
  | inert => simp [Controls.kind] at hkind
  | retract => simp [Controls.kind] at hkind
  | review rejectEnabled =>
    obtain ⟨-, henabled⟩ := (View.review_mem_offers_iff hordered).mp hoffer
    refine ⟨rejectEnabled, ?_, ?_, ?_⟩
    · simp [Value.member?, offerToJson, Controls.members]
    · intro button hbutton haction
      obtain ⟨controls, hother, hmem⟩ := mem_buttons_iff.mp hbutton
      cases controls with
      | inert => simp [Controls.buttons] at hmem
      | retract =>
        obtain rfl : button = ⟨"retract", true⟩ := by simpa [Controls.buttons] using hmem
        simp at haction
      | review other =>
        obtain ⟨-, hsame⟩ := (View.review_mem_offers_iff hordered).mp hother
        simp only [Controls.buttons, List.mem_cons, List.not_mem_nil, or_false] at hmem
        rcases hmem with rfl | rfl | rfl
        · simp at haction
        · exact hsame.trans henabled.symm
        · simp at haction
    · rw [henabled, Bool.not_eq_true', isOpen_eq_false_iff horderly]

/-- For every index of an ordered thread the four agree. -/
lemma agrees (hordered : view.thread.Ordered) (horderly : view.panels.Orderly) (index : UInt32) :
    Agrees view (view.offers.map offerToJson) (annotationNode view).tags index := by
  have hretract : (index, .retract) ∈ view.offers ↔ (Command.retract index).PassesOn view := by
    rw [View.retract_mem_offers_iff hordered, passesOn_iff]
    exact map_eq_ok_iff.symm
  have hreview : (∃ rejectEnabled, (index, .review rejectEnabled) ∈ view.offers) ↔
      ∃ entry, view.actionable index .accept = .ok entry := by
    simp only [View.review_mem_offers_iff hordered, exists_and_left, exists_eq, and_true]
  have haccept : (∃ entry, view.actionable index .accept = .ok entry) ↔
      (Command.accept index).PassesOn view := by
    rw [passesOn_iff]
    exact map_eq_ok_iff.symm
  have hactions : ∀ action ∈ ["accept", "reject", "change"],
      (Lists (view.offers.map offerToJson) index "review" ↔
        Shows (annotationNode view).tags index action) := fun action hmem =>
    lists_review_iff.trans (shows_review_iff hmem).symm
  have hback : Lists (view.offers.map offerToJson) index "retract" ↔
      Shows (annotationNode view).tags index "retract" :=
    lists_retract_iff.trans shows_retract_iff.symm
  constructor
  case retract_shown => exact hback
  case retract_permitted => exact lists_retract_iff.trans hretract
  case review_shown => exact hactions
  case review_permitted => exact lists_review_iff.trans (hreview.trans haccept)
  case panel_opens =>
    intro placeholder
    rw [lists_review_iff, hreview, ← View.exists_actionable_reject_iff,
      openRejectionPanel_succeedsOn_iff]
  case reject_enabled =>
    intro item hmem hindex hkind
    exact reject_enabled_of_lists hordered horderly hmem hindex hkind
  case otherwise =>
    intro hnoRetract hnoReview
    refine ⟨?_, ?_, ?_⟩
    · intro item hmem hindex
      obtain ⟨⟨target, controls⟩, hoffer, rfl⟩ := List.mem_map.mp hmem
      obtain rfl : target = index := speaksOf_offerToJson.mp hindex
      rw [kind_offerToJson]
      cases controls with
      | inert => rfl
      | retract => exact absurd (lists_retract_iff.mpr hoffer) hnoRetract
      | review => exact absurd (lists_review_iff.mpr ⟨_, hoffer⟩) hnoReview
    · refine List.forall_mem_cons.mpr ⟨fun hshows => hnoRetract (hback.mpr hshows), ?_⟩
      exact fun action hmem hshows => hnoReview ((hactions action hmem).mpr hshows)
    · intro command hdecides
      refine refusedOn_of_not_actionable hordered ?_ ?_ hdecides
      · exact fun hentry => hnoReview (lists_review_iff.mpr (hreview.mpr hentry))
      · rw [← View.retract_mem_offers_iff hordered]
        exact fun hoffer => hnoRetract (lists_retract_iff.mpr hoffer)

end

/-- **What is offered is what is permitted.**  After a mount and any commands that append fewer than
`UInt32.size` entries, whatever the backend answers, the list of controls in the snapshot has one
item for each shown entry, in the order of the thread; and for every index the list, the buttons in
the markup as it is read back, and the rules in front of a decision agree. -/
theorem offered_iff_permitted {annotationId viewer text : String} {loading : List Exchange}
    {mounted now : View} {past : List Event}
    (hmount : Mounts annotationId viewer text loading mounted) (hpast : Run mounted past now)
    (hfew : appendsOf (loading ++ trace past) < UInt32.size) :
    ∃ items tags, now.snapshot.member? "controls" = some (.array items) ∧
      now.snapshot.member? "html" = some (.string now.render) ∧ tags? now.render = some tags ∧
      items.map (·.member? "entry") =
        now.thread.visible.map (fun entry => some (indexToJson entry.index)) ∧
      ∀ index, Agrees now items tags index := by
  rw [appendsOf_append] at hfew
  have hmounted := mountedAs_of_mounts hmount
  have hconsistent : now.Consistent annotationId viewer :=
    hpast.inv consistent_of_course hmounted.consistent
  obtain ⟨hordered, -⟩ := ordered_of_mounts hmount hpast hfew
  refine ⟨_, _, controls_snapshot now, ?_, tags?_render now, ?_, agrees hordered hconsistent.panels⟩
  · simp [Value.member?, View.snapshot]
  · rw [View.offers, List.map_map, List.map_map]
    exact List.map_congr_left fun entry _ => speaksOf_offerToJson.mpr rfl

/-- While the rejection of an entry is written, the entry is still offered for review. -/
theorem offered_iff_permitted_rejecting :
    ∃ items tags, rejecting.snapshot.member? "controls" = some (.array items) ∧
      rejecting.snapshot.member? "html" = some (.string rejecting.render) ∧
      tags? rejecting.render = some tags ∧
      items.map (·.member? "entry") = [some (indexToJson 0)] ∧ Agrees rejecting items tags 0 := by
  obtain ⟨items, tags, hitems, hhtml, htags, hentries, hagrees⟩ :=
    offered_iff_permitted mounts_reviewing (.cons path_rejecting (.nil rejecting)) (by decide)
  exact ⟨items, tags, hitems, hhtml, htags, hentries, hagrees 0⟩

end Review

end AnnotationReview
