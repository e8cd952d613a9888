import AnnotationReview.Registry.Basic

/-!
# Handles

Whoever mounts or looks up a pair is given a handle of its slot and may keep it.  A handle does not
tell the number of the slot: it names the pair, and how many slots had been made for that pair
before, so that it means the same whatever else is mounted.
-/

namespace AnnotationReview

/-- The pair of the viewer and the annotation of a view. -/
def View.key (view : View) : SlotKey := ⟨view.viewer, view.annotationId⟩

/-- The pair that a slot was made for. -/
def Slot.key (slot : Slot) : SlotKey := slot.view.key

/-- A slot that was made for a pair. -/
structure Handle where
  key : SlotKey
  /-- The number of slots made for the pair before. -/
  rank : Nat
deriving DecidableEq, Repr

namespace Registry

/-- The pairs of all slots ever made. -/
def keys (registry : Registry) : List SlotKey :=
  registry.slots.map Slot.key

/-- The number of slots made for a pair before some slot. -/
def rank (registry : Registry) (key : SlotKey) (slot : SlotId) : Nat :=
  (registry.keys.take slot).count key

/-- The handle that is given for a slot of a pair. -/
def handleOf (registry : Registry) (key : SlotKey) (slot : SlotId) : Handle :=
  ⟨key, registry.rank key slot⟩

/-- The slot is the one that the handle stands for. -/
def Holds (registry : Registry) (handle : Handle) (slot : SlotId) : Prop :=
  registry.keys[slot]? = some handle.key ∧ registry.handleOf handle.key slot = handle

/-- A pair reaches the slot that is mounted for it and those that it has handles of. -/
def Reaches (registry : Registry) (key : SlotKey) (slot : SlotId) : Prop :=
  registry.find? key = some slot ∨ ∃ rank, registry.Holds ⟨key, rank⟩ slot

/-- What is shown to a pair, if it is mounted. -/
def shown? (registry : Registry) (key : SlotKey) : Option View :=
  (registry.find? key).bind registry.view?

end Registry

end AnnotationReview
