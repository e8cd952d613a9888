import AnnotationReview.Registry.Basic

/-!
# Slots in custody

A caller that works on a slot for a while holds it under a name.  What is held is never idle, and
it stays with its holder when its pair is unmounted or mounted anew.  `Custody` is a registry
together with its holders, and `Custody.step` is what lookups, removals and sweeps do to both.
-/

namespace AnnotationReview

/-- Who holds which slot.  A name holds one slot at a time, and a slot may have many holders. -/
structure Holders where
  toList : List (String × SlotId)
deriving DecidableEq, Repr

namespace Holders

/-- Nobody holds anything. -/
def empty : Holders := ⟨[]⟩

/-- The slot that a name holds. -/
def slot? (holders : Holders) (name : String) : Option SlotId :=
  holders.toList.lookup name

/-- Lets a name hold nothing. -/
def release (holders : Holders) (name : String) : Holders :=
  ⟨holders.toList.filter fun (holder, _) => holder != name⟩

/-- Lets a name hold a slot, in place of the one it held. -/
def put (holders : Holders) (name : String) (slot : SlotId) : Holders :=
  ⟨(name, slot) :: (holders.release name).toList⟩

@[simp] theorem slot?_put_self (holders : Holders) (name : String) (slot : SlotId) :
    (holders.put name slot).slot? name = some slot := by
  simp [put, slot?]

/-- `put` for a caller that may not want to hold the slot. -/
def putIf (holders : Holders) (name? : Option String) (slot : SlotId) : Holders :=
  match name? with
  | some name => holders.put name slot
  | none => holders

/-- Somebody holds the slot. -/
def isHeld (holders : Holders) (slot : SlotId) : Bool :=
  holders.toList.any fun (_, held) => held == slot

/-- The names that hold the slot. -/
def namesOf (holders : Holders) (slot : SlotId) : List String :=
  (holders.toList.filter fun (_, held) => held == slot).map Prod.fst

end Holders

/-- A registry and who holds its slots. -/
structure Custody where
  registry : Registry
  holders : Holders
deriving DecidableEq, Repr

namespace Custody

/-- What can happen to a registry and its holders. -/
inductive Step where
  /-- Looks a pair up, and holds its slot if a name is given. -/
  | get (key : SlotKey) (name? : Option String)
  /-- Looks a pair up, makes a slot with the view if there is none, and holds it if a name is
  given. -/
  | getOrInsert (key : SlotKey) (view : View) (name? : Option String)
  | release (name : String)
  | remove (key : SlotKey)
  | evictIdle (maxIdle : Nat)
deriving DecidableEq, Repr

/-- What a step tells. -/
inductive Result where
  /-- Whether there was something to look up, release or remove. -/
  | found (yes : Bool)
  /-- Whether the slot was made, and who held it before. -/
  | slot (created : Bool) (heldBy : List String)
  | evicted (keys : List SlotKey)
deriving DecidableEq, Repr

/-- Nothing is mounted or held. -/
def empty : Custody := ⟨.empty, .empty⟩

/-- Takes a step. -/
def step (now : Nat) (custody : Custody) : Step → Result × Custody
  | .get key name? =>
    match custody.registry.get now key with
    | none => (.found false, custody)
    | some (slot, registry) =>
      (.found true, { registry, holders := custody.holders.putIf name? slot })
  | .getOrInsert key view name? =>
    let (slot, created, registry) := custody.registry.getOrInsert now key view
    (.slot created (custody.holders.namesOf slot),
      { registry, holders := custody.holders.putIf name? slot })
  | .release name =>
    (.found (custody.holders.slot? name).isSome,
      { custody with holders := custody.holders.release name })
  | .remove key =>
    let (removed, registry) := custody.registry.remove key
    (.found removed, { custody with registry })
  | .evictIdle maxIdle =>
    let (keys, registry) := custody.registry.evictIdle now maxIdle custody.holders.isHeld
    (.evicted keys, { custody with registry })

end Custody

end AnnotationReview
