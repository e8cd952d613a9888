import AnnotationReview.Registry.Handle
import AnnotationReview.Registry.Operations
import AnnotationReview.Proofs.Lookup
import Mathlib.Tactic.Lemma
import Mathlib.Data.List.Basic

/-!
# What a registry holds for one pair

`Registry.only` is the registry as it would be if nobody else had used it: the slots that were made
for one pair, numbered anew, and the mount of that pair.  A slot that is changed or made and a pair
that is unmounted are each followed twice: for their own pair the change can as well be made where
there is only that pair (`only_update`, `only_add`, `remove_only`), and for all other pairs nothing
happens (`Moves`).
-/

namespace AnnotationReview

namespace Registry

variable {registry : Registry} {key other : SlotKey} {slot : SlotId}

/-- What is held for one pair, its slots numbered without the others. -/
def only (registry : Registry) (key : SlotKey) : Registry where
  slots := registry.slots.filter fun slot => slot.key == key
  mounted := (registry.find? key).toList.map fun slot => (key, registry.rank key slot)

/-- Whatever is mounted for a pair is a slot of that pair. -/
def Sound (registry : Registry) : Prop :=
  ∀ {key slot}, registry.find? key = some slot → registry.keys[slot]? = some key

/-- The registry with one slot changed. -/
def update (registry : Registry) (slot : SlotId) (change : Slot → Slot) : Registry :=
  { registry with slots := registry.slots.modify slot change }

/-! ## The slots of a pair -/

lemma exists_split (hslot : registry.keys[slot]? = some key) :
    ∃ front found back, registry.slots = front ++ found :: back ∧ front.length = slot ∧
      found.key = key := by
  rw [keys, List.getElem?_map, Option.map_eq_some_iff] at hslot
  obtain ⟨found, hfound, hkey⟩ := hslot
  obtain ⟨hlt, hget⟩ := List.getElem?_eq_some_iff.mp hfound
  refine ⟨registry.slots.take slot, found, registry.slots.drop (slot + 1), ?_, ?_, hkey⟩
  · rw [← hget, List.getElem_cons_drop, List.take_append_drop]
  · rw [List.length_take, Nat.min_eq_left (Nat.le_of_lt hlt)]

lemma count_map_key (slots : List Slot) (key : SlotKey) :
    (slots.map Slot.key).count key = (slots.filter fun slot => slot.key == key).length := by
  rw [List.count_eq_countP, List.countP_map, List.countP_eq_length_filter]
  rfl

/-- The rank of a slot is its number among the slots of its pair. -/
lemma rank_eq_length (registry : Registry) (key : SlotKey) (slot : SlotId) :
    registry.rank key slot =
      ((registry.slots.take slot).filter fun slot => slot.key == key).length := by
  rw [rank, keys, ← List.map_take, count_map_key]

lemma rank_mono (registry : Registry) (key : SlotKey) {first second : SlotId}
    (hle : first ≤ second) : registry.rank key first ≤ registry.rank key second :=
  (List.take_sublist_take_left hle).count_le key

lemma rank_succ (hslot : registry.keys[slot]? = some key) :
    registry.rank key (slot + 1) = registry.rank key slot + 1 := by
  rw [rank, rank, List.take_add_one, hslot]
  simp

lemma rank_lt {second : SlotId} (hslot : registry.keys[slot]? = some key) (hlt : slot < second) :
    registry.rank key slot < registry.rank key second := by
  have hle := registry.rank_mono key hlt
  rw [rank_succ hslot] at hle
  exact hle

/-- A handle stands for one slot. -/
lemma Holds.unique {handle : Handle} {first second : SlotId} (hfirst : registry.Holds handle first)
    (hsecond : registry.Holds handle second) : first = second := by
  have hrank : registry.rank handle.key first = registry.rank handle.key second :=
    congrArg Handle.rank (hfirst.2.trans hsecond.2.symm)
  rcases Nat.lt_trichotomy first second with hlt | heq | hlt
  · exact absurd hrank (Nat.ne_of_lt (rank_lt hfirst.1 hlt))
  · exact heq
  · exact absurd hrank.symm (Nat.ne_of_lt (rank_lt hsecond.1 hlt))

lemma rank_congr {before after : Registry} (hkeys : after.keys = before.keys) (key : SlotKey) :
    after.rank key = before.rank key := by
  funext slot
  rw [rank, rank, hkeys]

lemma keys_only (registry : Registry) (key : SlotKey) :
    (registry.only key).keys = List.replicate (registry.keys.count key) key := by
  refine List.eq_replicate_iff.mpr ⟨?_, ?_⟩
  · rw [keys, keys, List.length_map, count_map_key]
    rfl
  · intro found hfound
    obtain ⟨slot, hslot, rfl⟩ := List.mem_map.mp hfound
    simpa using (List.mem_filter.mp hslot).2

/-- A slot of a pair is found by its rank among the slots of that pair. -/
lemma slots_only_rank (hslot : registry.keys[slot]? = some key) :
    (registry.only key).slots[registry.rank key slot]? = registry.slots[slot]? := by
  obtain ⟨front, found, back, hslots, rfl, hkey⟩ := exists_split hslot
  have hkept : (found.key == key) = true := by simp [hkey]
  rw [rank_eq_length]
  simp [only, hslots, hkept]

lemma keys_only_rank (hslot : registry.keys[slot]? = some key) :
    (registry.only key).keys[registry.rank key slot]? = some key := by
  rw [← hslot, keys, keys, List.getElem?_map, List.getElem?_map, slots_only_rank hslot]

lemma view?_only (hslot : registry.keys[slot]? = some key) :
    (registry.only key).view? (registry.rank key slot) = registry.view? slot := by
  rw [view?, view?, slots_only_rank hslot]

lemma rank_le_count (registry : Registry) (key : SlotKey) (slot : SlotId) :
    registry.rank key slot ≤ registry.keys.count key :=
  (List.take_sublist slot registry.keys).count_le key

/-- Ranks are ranks without the others as well. -/
lemma rank_only {rank : Nat} (hrank : rank ≤ registry.keys.count key) :
    (registry.only key).rank key rank = rank := by
  rw [Registry.rank, keys_only, List.take_replicate, List.count_replicate_self,
    Nat.min_eq_left hrank]

lemma handleOf_only (registry : Registry) (key : SlotKey) (slot : SlotId) :
    (registry.only key).handleOf key (registry.rank key slot) = registry.handleOf key slot := by
  rw [handleOf, handleOf, rank_only (registry.rank_le_count key slot)]

/-- Behind a handle of a pair stands the same slot where there is only that pair. -/
lemma Holds.only {handle : Handle} (hslot : registry.Holds handle slot) :
    (registry.only handle.key).Holds handle (registry.rank handle.key slot) :=
  ⟨keys_only_rank hslot.1, (registry.handleOf_only handle.key slot).trans hslot.2⟩

lemma find?_only (registry : Registry) (key : SlotKey) :
    (registry.only key).find? key = (registry.find? key).map (registry.rank key) := by
  show List.lookup key ((registry.find? key).toList.map _) = _
  cases registry.find? key with
  | none => rfl
  | some slot => exact List.lookup_cons_self

lemma exists_view (hslot : registry.keys[slot]? = some key) :
    ∃ view, registry.view? slot = some view ∧ view.key = key := by
  rw [keys, List.getElem?_map, Option.map_eq_some_iff] at hslot
  obtain ⟨found, hfound, rfl⟩ := hslot
  exact ⟨found.view, by rw [view?, hfound]; rfl, rfl⟩

/-! ## What leaves a pair alone -/

/-- Nothing has changed for a pair: it is mounted as before, and its slots are as before. -/
structure Unchanged (key : SlotKey) (before after : Registry) : Prop where
  mount : after.find? key = before.find? key
  shown : after.shown? key = before.shown? key
  slots : after.only key = before.only key

lemma Unchanged.refl (key : SlotKey) (registry : Registry) : Unchanged key registry registry :=
  ⟨rfl, rfl, rfl⟩

lemma Unchanged.trans {first middle last : Registry} (hfront : Unchanged key first middle)
    (hback : Unchanged key middle last) : Unchanged key first last :=
  ⟨hback.mount.trans hfront.mount, hback.shown.trans hfront.shown, hback.slots.trans hfront.slots⟩

/-- Only one pair is concerned: slots may be made for it and be changed. -/
structure Moves (key : SlotKey) (before after : Registry) : Prop where
  sound : after.Sound
  grows : before.keys <+: after.keys
  others : ∀ other ≠ key, Unchanged other before after

namespace Moves

variable {first middle last before after : Registry}

lemma refl (hsound : registry.Sound) (key : SlotKey) : Moves key registry registry :=
  ⟨hsound, List.prefix_rfl, fun other _ => .refl other registry⟩

lemma trans (hfront : Moves key first middle) (hback : Moves key middle last) :
    Moves key first last :=
  ⟨hback.sound, hfront.grows.trans hback.grows, fun other hother =>
    (hfront.others other hother).trans (hback.others other hother)⟩

/-- A slot stays the slot of its pair. -/
lemma keys_eq (hmoves : Moves key before after) (hslot : before.keys[slot]? = some other) :
    after.keys[slot]? = some other := by
  obtain ⟨more, hmore⟩ := hmoves.grows
  obtain ⟨hlt, -⟩ := List.getElem?_eq_some_iff.mp hslot
  rw [← hmore, List.getElem?_append_left hlt, hslot]

/-- A slot keeps its rank. -/
lemma rank_eq (hmoves : Moves key before after) (hslot : before.keys[slot]? = some other) :
    after.rank other slot = before.rank other slot := by
  obtain ⟨more, hmore⟩ := hmoves.grows
  obtain ⟨hlt, -⟩ := List.getElem?_eq_some_iff.mp hslot
  rw [rank, rank, ← hmore, List.take_append_of_le_length (Nat.le_of_lt hlt)]

end Moves

/-! ## A slot that is changed -/

lemma modify_middle (front : List Slot) (found : Slot) (back : List Slot)
    (change : Slot → Slot) :
    (front ++ found :: back).modify front.length change = front ++ change found :: back := by
  induction front with
  | nil => rfl
  | cons first front ih => exact congrArg (first :: ·) ih

section update

variable {change : Slot → Slot}

lemma keys_update (hslot : registry.keys[slot]? = some key)
    (hchange : ∀ found : Slot, found.key = key → (change found).key = key) :
    (registry.update slot change).keys = registry.keys := by
  obtain ⟨front, found, back, hslots, rfl, hkey⟩ := exists_split hslot
  simp [keys, update, hslots, modify_middle, hchange found hkey, hkey]

/-- A slot of a pair can be changed where the others are not. -/
lemma only_update (hslot : registry.keys[slot]? = some key)
    (hchange : ∀ found : Slot, found.key = key → (change found).key = key) :
    (registry.update slot change).only key =
      (registry.only key).update (registry.rank key slot) change := by
  have hkeys := keys_update hslot hchange
  have hrank := rank_congr hkeys key
  obtain ⟨front, found, back, hslots, rfl, hkey⟩ := exists_split hslot
  have hkept : (found.key == key) = true := by simp [hkey]
  have hkeptChanged : ((change found).key == key) = true := by simp [hchange found hkey]
  refine congrArg₂ Registry.mk ?_ ?_
  · show ((registry.update front.length change).slots.filter _) = _
    rw [rank_eq_length]
    simp [update, only, hslots, modify_middle, hkept, hkeptChanged]
  · show (registry.find? key).toList.map _ = (registry.find? key).toList.map _
    rw [hrank]

lemma moves_update (hsound : registry.Sound) (hslot : registry.keys[slot]? = some key)
    (hchange : ∀ found : Slot, found.key = key → (change found).key = key) :
    Moves key registry (registry.update slot change) := by
  have hkeys := keys_update hslot hchange
  refine ⟨?_, hkeys ▸ List.prefix_rfl, fun other hother => ?_⟩
  · intro other found hfind
    rw [hkeys]
    exact hsound hfind
  have hrank := rank_congr hkeys other
  refine ⟨rfl, ?_, ?_⟩
  · show (registry.find? other).bind _ = (registry.find? other).bind _
    refine Option.bind_congr fun found hfind => ?_
    have hne : slot ≠ found := by
      rintro rfl
      exact hother (Option.some.inj ((hsound hfind).symm.trans hslot))
    show (registry.slots.modify slot change)[found]?.map Slot.view = _
    rw [List.getElem?_modify_ne change _ hne, view?]
  · obtain ⟨front, found, back, hslots, rfl, hkey⟩ := exists_split hslot
    have hleft : (found.key == other) = false := by simp [hkey, hother.symm]
    have hleftChanged : ((change found).key == other) = false := by
      simp [hchange found hkey, hother.symm]
    refine congrArg₂ Registry.mk ?_ ?_
    · simp [update, hslots, modify_middle, hleft, hleftChanged]
    · show (registry.find? other).toList.map _ = (registry.find? other).toList.map _
      rw [hrank]

end update

lemma key_setView {view : View} (hview : view.key = key) :
    ∀ found : Slot, found.key = key → Slot.key { found with view } = key :=
  fun _ _ => hview

lemma only_setView {view : View} (hslot : registry.keys[slot]? = some key)
    (hview : view.key = key) :
    (registry.setView slot view).only key =
      (registry.only key).setView (registry.rank key slot) view :=
  only_update hslot (key_setView hview)

lemma moves_setView {view : View} (hsound : registry.Sound)
    (hslot : registry.keys[slot]? = some key) (hview : view.key = key) :
    Moves key registry (registry.setView slot view) :=
  moves_update hsound hslot (key_setView hview)

lemma only_touch (hslot : registry.keys[slot]? = some key) (now : Nat) :
    (registry.touch now slot).only key =
      (registry.only key).touch now (registry.rank key slot) :=
  only_update hslot fun _ hfound => hfound

lemma moves_touch (hsound : registry.Sound) (hslot : registry.keys[slot]? = some key)
    (now : Nat) : Moves key registry (registry.touch now slot) :=
  moves_update hsound hslot fun _ hfound => hfound

/-! ## A slot that is made -/

/-- The registry with a slot made and mounted for a pair. -/
def add (registry : Registry) (key : SlotKey) (made : Slot) : Registry where
  slots := registry.slots ++ [made]
  mounted := registry.mounted ++ [(key, registry.slots.length)]

section add

variable {made : Slot}

lemma find?_add_self (hfind : registry.find? key = none) :
    (registry.add key made).find? key = some registry.slots.length := by
  rw [find?] at hfind ⊢
  rw [add, List.lookup_append, hfind, List.lookup_cons_self]
  rfl

lemma find?_add_of_ne (hother : other ≠ key) :
    (registry.add key made).find? other = registry.find? other := by
  have hbeq : (other == key) = false := by simp [hother]
  rw [find?, find?, add, List.lookup_append, List.lookup_cons, hbeq]
  exact Option.or_none

lemma keys_add (hmade : made.key = key) :
    (registry.add key made).keys = registry.keys ++ [key] := by
  simp [keys, add, hmade]

lemma rank_add_of_le (hmade : made.key = key) (hslot : slot ≤ registry.slots.length) :
    (registry.add key made).rank other slot = registry.rank other slot := by
  have hlength : slot ≤ registry.keys.length := by simpa [keys] using hslot
  rw [rank, rank, keys_add hmade, List.take_append_of_le_length hlength]

lemma rank_length (registry : Registry) (key : SlotKey) :
    registry.rank key registry.slots.length = (registry.only key).slots.length := by
  rw [rank_eq_length, List.take_length]
  rfl

lemma only_add (hfind : registry.find? key = none) (hmade : made.key = key) :
    (registry.add key made).only key = (registry.only key).add key made := by
  have hkept : (made.key == key) = true := by simp [hmade]
  have hrank : (registry.add key made).rank key registry.slots.length =
      (registry.only key).slots.length := by
    rw [rank_add_of_le hmade (Nat.le_refl _), rank_length]
  have hmounted : (registry.only key).mounted = [] := by simp [only, hfind]
  refine congrArg₂ Registry.mk ?_ ?_
  · simp [only, add, hkept]
  · rw [find?_add_self hfind, hmounted]
    show [(key, _)] = [(key, _)]
    rw [hrank]

lemma moves_add (hsound : registry.Sound) (hfind : registry.find? key = none)
    (hmade : made.key = key) : Moves key registry (registry.add key made) := by
  refine ⟨?_, ⟨[key], (keys_add hmade).symm⟩, fun other hother => ?_⟩
  · intro other found hfound
    rw [keys_add hmade]
    by_cases hother : other = key
    · rw [hother, find?_add_self hfind] at hfound
      obtain rfl := Option.some.inj hfound
      simp [keys, hother]
    · rw [find?_add_of_ne hother] at hfound
      have hslot := hsound hfound
      rw [List.getElem?_append_left (List.getElem?_eq_some_iff.mp hslot).1, hslot]
  have hlt : ∀ found, registry.find? other = some found → found < registry.slots.length := by
    intro found hfound
    simpa [keys] using (List.getElem?_eq_some_iff.mp (hsound hfound)).1
  have hdropped : (made.key == other) = false := by simp [hmade, hother.symm]
  refine ⟨find?_add_of_ne hother, ?_, congrArg₂ Registry.mk ?_ ?_⟩
  · rw [shown?, shown?, find?_add_of_ne hother]
    refine Option.bind_congr fun found hfound => ?_
    rw [view?, view?, add, List.getElem?_append_left (hlt found hfound)]
  · simp [add, hdropped]
  · rw [find?_add_of_ne hother]
    cases hfound : registry.find? other with
    | none => rfl
    | some found =>
      show [(other, _)] = [(other, _)]
      rw [rank_add_of_le hmade (Nat.le_of_lt (hlt found hfound))]

end add

/-! ## A pair that is unmounted -/

lemma find?_remove (registry : Registry) (key other : SlotKey) :
    (registry.remove key).2.find? other = if other = key then none else registry.find? other :=
  lookup_filter_ne registry.mounted key other

lemma remove_only (registry : Registry) (key : SlotKey) :
    (registry.only key).remove key = ((registry.remove key).1, (registry.remove key).2.only key) := by
  refine Prod.ext ?_ (congrArg₂ Registry.mk rfl ?_)
  · show ((registry.only key).find? key).isSome = (registry.find? key).isSome
    rw [find?_only, Option.isSome_map]
  · rw [find?_remove, if_pos rfl]
    simp [only]

lemma moves_remove (hsound : registry.Sound) (key : SlotKey) :
    Moves key registry (registry.remove key).2 := by
  refine ⟨?_, List.prefix_rfl, fun other hother => ?_⟩
  · intro other found hfound
    rw [find?_remove] at hfound
    split at hfound
    · cases hfound
    · exact hsound hfound
  have hfind : (registry.remove key).2.find? other = registry.find? other := by
    rw [find?_remove, if_neg hother]
  refine ⟨hfind, ?_, congrArg₂ Registry.mk rfl ?_⟩
  · rw [shown?, shown?, hfind]
    rfl
  · rw [hfind]
    rfl

/-! ## Look-ups -/

lemma mem_of_find? (hfind : registry.find? key = some slot) : (key, slot) ∈ registry.mounted := by
  obtain ⟨front, back, hmounted, -⟩ := List.lookup_eq_some_iff.mp hfind
  simp [hmounted]

@[simp] lemma find?_touch (registry : Registry) (now : Nat) (slot : SlotId) :
    (registry.touch now slot).find? key = registry.find? key := rfl

/-- A look-up shows in no view. -/
@[simp] lemma view?_touch (registry : Registry) (now : Nat) (slot other : SlotId) :
    (registry.touch now slot).view? other = registry.view? other := by
  rw [view?, view?, touch, List.getElem?_modify]
  cases registry.slots[other]? with
  | none => rfl
  | some found => by_cases hslot : slot = other <;> simp [hslot]

lemma getOrInsert_of_none {now : Nat} {view : View} (hfind : registry.find? key = none) :
    registry.getOrInsert now key view =
      (registry.slots.length, true, registry.add key ⟨view, now⟩) := by
  rw [getOrInsert, get, hfind]
  rfl

lemma getOrInsert_of_some {now : Nat} {view : View} (hfind : registry.find? key = some slot) :
    registry.getOrInsert now key view = (slot, false, registry.touch now slot) := by
  rw [getOrInsert, get, hfind]
  rfl

lemma get_only (hsound : registry.Sound) (now : Nat) (key : SlotKey) :
    (registry.only key).get now key =
      (registry.get now key).map fun (slot, after) => (registry.rank key slot, after.only key) := by
  rw [get, get, find?_only]
  cases hfind : registry.find? key with
  | none => rfl
  | some slot =>
    show some (_, _) = some (_, _)
    rw [only_touch (hsound hfind)]

/-- A slot is looked up for its pair only. -/
lemma moves_get (hsound : registry.Sound) {now : Nat} {after : Registry}
    (hget : registry.get now key = some (slot, after)) :
    registry.keys[slot]? = some key ∧ Moves key registry after := by
  rw [get, Option.map_eq_some_iff] at hget
  obtain ⟨found, hfind, hfound⟩ := hget
  cases hfound
  exact ⟨hsound hfind, moves_touch hsound (hsound hfind) now⟩

lemma sound_empty : empty.Sound := by
  intro key slot hfind
  cases hfind

/-! ## Views -/

lemma view?_add_length (made : Slot) :
    (registry.add key made).view? registry.slots.length = some made.view := by
  simp [view?, add]

lemma view?_setView_self {view : View} (hview : registry.view? slot = some view) (next : View) :
    (registry.setView slot next).view? slot = some next := by
  obtain ⟨found, hfound, -⟩ := Option.map_eq_some_iff.mp hview
  simp [view?, setView, hfound]

lemma perform_eq {α : Type} {operation : Review.Operation α} {view : View}
    (hview : registry.view? slot = some view) :
    registry.perform slot operation =
      (operation view).bind fun (result, view) => .done (result, registry.setView slot view) := by
  rw [perform, hview]
  rfl

end Registry

end AnnotationReview
