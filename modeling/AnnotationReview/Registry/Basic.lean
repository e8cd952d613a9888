import AnnotationReview.View

/-!
# Mounted annotations

A registry keeps one slot for each pair of viewer and annotation that is mounted.  Slots are
numbered and a number is not used twice, so a holder of a slot keeps that very slot even when
its pair is unmounted or mounted anew.  Slots that nobody holds and nobody has looked up for a
while can be evicted.
-/

namespace AnnotationReview

/-- A mounted annotation as one viewer sees it. -/
structure SlotKey where
  viewer : String
  annotationId : String
deriving DecidableEq, Repr

/-- What is kept for a pair, and when the pair was last looked up. -/
structure Slot where
  view : View
  lastUsed : Nat
deriving DecidableEq, Repr

/-- The number of a slot. -/
abbrev SlotId := Nat

/-- All slots ever made, by number, and which of them are mounted. -/
structure Registry where
  slots : List Slot
  mounted : List (SlotKey × SlotId)
deriving DecidableEq, Repr

namespace Registry

/-- Nothing is mounted. -/
def empty : Registry := ⟨[], []⟩

/-- The slot mounted for a pair. -/
def find? (registry : Registry) (key : SlotKey) : Option SlotId :=
  registry.mounted.lookup key

/-- What a slot shows. -/
def view? (registry : Registry) (slot : SlotId) : Option View :=
  registry.slots[slot]?.map Slot.view

/-- Changes what a slot shows. -/
def setView (registry : Registry) (slot : SlotId) (view : View) : Registry :=
  { registry with slots := registry.slots.modify slot fun s => { s with view } }

/-- Notes that a slot was looked up. -/
def touch (registry : Registry) (now : Nat) (slot : SlotId) : Registry :=
  { registry with slots := registry.slots.modify slot fun s => { s with lastUsed := now } }

/-- Looks up the slot of a pair. -/
def get (registry : Registry) (now : Nat) (key : SlotKey) : Option (SlotId × Registry) :=
  (registry.find? key).map fun slot => (slot, registry.touch now slot)

/-- Looks up the slot of a pair and makes one with the given view if there is none; tells
whether it did. -/
def getOrInsert (registry : Registry) (now : Nat) (key : SlotKey) (view : View) :
    SlotId × Bool × Registry :=
  match registry.get now key with
  | some (slot, registry) => (slot, false, registry)
  | none =>
    let slot := registry.slots.length
    (slot, true,
      { slots := registry.slots ++ [⟨view, now⟩]
        mounted := registry.mounted ++ [(key, slot)] })

/-- Unmounts a pair and tells whether it was mounted.  Its slot stays with those who hold it. -/
def remove (registry : Registry) (key : SlotKey) : Bool × Registry :=
  ((registry.find? key).isSome,
    { registry with mounted := registry.mounted.filter fun (k, _) => k != key })

/-- Nobody holds the slot, and it was not looked up for `maxIdle`. -/
def isIdle (registry : Registry) (now maxIdle : Nat) (held : SlotId → Bool) (slot : SlotId) :
    Bool :=
  !held slot && registry.slots[slot]?.all fun s => maxIdle ≤ now - s.lastUsed

/-- Unmounts the pairs whose slots are idle and tells which they were. -/
def evictIdle (registry : Registry) (now maxIdle : Nat) (held : SlotId → Bool) :
    List SlotKey × Registry :=
  let (idle, kept) :=
    registry.mounted.partition fun (_, slot) => registry.isIdle now maxIdle held slot
  (idle.map Prod.fst, { registry with mounted := kept })

/-- The number of mounted pairs. -/
def size (registry : Registry) : Nat :=
  registry.mounted.length

/-- Nothing is mounted. -/
def isEmpty (registry : Registry) : Bool :=
  registry.mounted.isEmpty

end Registry

end AnnotationReview
