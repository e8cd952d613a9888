import AnnotationReview.Registry.Basic
import AnnotationReview.Review.Operations

/-!
# Operations on mounted annotations

An operation on a view becomes one on a registry by naming the slot it works on.  Mounting makes
a slot where there is none, starts over with a fresh view and loads the thread; a load that
fails leaves its notice on the view and the annotation mounted.
-/

namespace AnnotationReview.Registry

open Backend (Dialogue)
open Review (Operation)

/-- The slot of a pair, or a refusal that names the annotation. -/
def handle (registry : Registry) (now : Nat) (key : SlotKey) :
    Except DomainError (SlotId × Registry) :=
  match registry.get now key with
  | some found => .ok found
  | none => .error (.notFound "Annotation" key.annotationId)

/-- Carries out an operation on the view of a slot. -/
def perform {α : Type} (registry : Registry) (slot : SlotId) (operation : Operation α) :
    Dialogue (Except Review.Error α × Registry) :=
  match registry.view? slot with
  | none => return (.error (.domain (.notFound "Slot" (toString slot))), registry)
  | some view => do
    let (result, view) ← operation view
    return (result, registry.setView slot view)

/-- Mounts an annotation for a viewer; the answer is its slot. -/
def mount (registry : Registry) (now : Nat) (key : SlotKey) (text : String) :
    Dialogue (SlotId × Registry) := do
  let fresh := View.fresh key.annotationId key.viewer text
  let (slot, _, registry) := registry.getOrInsert now key fresh
  let (_, registry) ← registry.perform slot (Review.mount key.annotationId key.viewer text)
  return (slot, registry)

end AnnotationReview.Registry
