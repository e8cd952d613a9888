import AnnotationReview.Proofs.Registry
import AnnotationReview.Proofs.Since
import AnnotationReview.Registry.Custody
import Mathlib.Data.List.Nodup

/-!
# Slots and their holders

A registry and its holders are seen here as callers see them: by the steps that were taken, the
slots that were given and what was told (`Custody.Event`).  Which slot is mounted for a pair, who
holds which slot and when a slot was last given are each described by the latest event that has to
do with it, and each of these descriptions rests on a law of one step (`Taken`).  Together they say
what look-ups, removals and sweeps come to after any sequence of steps (`Faithful`).
-/

namespace AnnotationReview

section

variable {α β : Type} {f : α → β} {elements : List α}

lemma nodup_map_filter (hnodup : (elements.map f).Nodup) (keep : α → Bool) :
    ((elements.filter keep).map f).Nodup :=
  hnodup.sublist (List.filter_sublist.map f)

lemma nodup_map_concat (hnodup : (elements.map f).Nodup) {last : α}
    (hlast : ∀ element ∈ elements, f element ≠ f last) : ((elements ++ [last]).map f).Nodup := by
  rw [List.map_append, List.nodup_append]
  refine ⟨hnodup, List.nodup_singleton _, ?_⟩
  simpa using hlast

end

/-! ## Mounts -/

namespace Registry

variable {registry : Registry} {key other : SlotKey} {slot : SlotId} {now maxIdle : Nat}
  {held : SlotId → Bool}

/-- A pair is mounted once, a slot for one pair, and what is mounted was made. -/
structure Distinct (registry : Registry) : Prop where
  keys : (registry.mounted.map Prod.fst).Nodup
  slots : (registry.mounted.map Prod.snd).Nodup
  made : ∀ pair ∈ registry.mounted, pair.2 < registry.slots.length

lemma Distinct.find?_eq_some_iff (hdistinct : registry.Distinct) :
    registry.find? key = some slot ↔ (key, slot) ∈ registry.mounted :=
  lookup_eq_some_iff_mem hdistinct.keys

lemma Distinct.lt_length (hdistinct : registry.Distinct) (hfind : registry.find? key = some slot) :
    slot < registry.slots.length :=
  hdistinct.made _ (mem_of_find? hfind)

lemma distinct_empty : empty.Distinct :=
  ⟨List.nodup_nil, List.nodup_nil, fun _ hmem => absurd hmem List.not_mem_nil⟩

lemma Distinct.touch (hdistinct : registry.Distinct) (now : Nat) (slot : SlotId) :
    (registry.touch now slot).Distinct :=
  ⟨hdistinct.keys, hdistinct.slots, by simpa [Registry.touch] using hdistinct.made⟩

lemma Distinct.add (hdistinct : registry.Distinct) (hfind : registry.find? key = none)
    (made : Slot) : (registry.add key made).Distinct := by
  refine ⟨nodup_map_concat hdistinct.keys fun pair hpair => ?_,
    nodup_map_concat hdistinct.slots fun pair hpair => Nat.ne_of_lt (hdistinct.made pair hpair), ?_⟩
  · exact (bne_iff_ne.mp (List.lookup_eq_none_iff.mp hfind pair hpair)).symm
  · rintro pair hpair
    rcases List.mem_append.mp hpair with hpair | hpair
    · simpa [Registry.add] using Nat.lt_succ_of_lt (hdistinct.made pair hpair)
    · simp [Registry.add, List.mem_singleton.mp hpair]

/-- Mounts may go at any time. -/
lemma Distinct.filter (hdistinct : registry.Distinct) (keep : SlotKey × SlotId → Bool) :
    Distinct { registry with mounted := registry.mounted.filter keep } :=
  ⟨nodup_map_filter hdistinct.keys keep, nodup_map_filter hdistinct.slots keep,
    fun pair hmem => hdistinct.made pair (List.mem_filter.mp hmem).1⟩

lemma view?_add_of_lt {made : Slot} (hlt : slot < registry.slots.length) :
    (registry.add key made).view? slot = registry.view? slot := by
  rw [view?, view?, Registry.add, List.getElem?_append_left hlt]

/-! ### Sweeps -/

/-- The pairs that a sweep unmounts. -/
lemma evicted_eq : (registry.evictIdle now maxIdle held).1 =
    (registry.mounted.filter fun pair => registry.isIdle now maxIdle held pair.2).map Prod.fst := by
  simp [evictIdle, List.partition_eq_filter_filter]

/-- What a sweep leaves mounted. -/
lemma swept_eq : (registry.evictIdle now maxIdle held).2 =
    { registry with mounted :=
      registry.mounted.filter fun pair => !registry.isIdle now maxIdle held pair.2 } := by
  simp [evictIdle, List.partition_eq_filter_filter, Function.comp_def]

lemma Distinct.mem_evicted_iff (hdistinct : registry.Distinct) :
    key ∈ (registry.evictIdle now maxIdle held).1 ↔
      ∃ slot, registry.find? key = some slot ∧
        registry.isIdle now maxIdle held slot = true := by
  simp only [evicted_eq, List.mem_map, List.mem_filter, hdistinct.find?_eq_some_iff]
  constructor
  · rintro ⟨⟨key, slot⟩, ⟨hmem, hidle⟩, rfl⟩
    exact ⟨slot, hmem, hidle⟩
  · rintro ⟨slot, hmem, hidle⟩
    exact ⟨(key, slot), ⟨hmem, hidle⟩, rfl⟩

lemma Distinct.find?_swept (hdistinct : registry.Distinct) :
    (registry.evictIdle now maxIdle held).2.find? key = some slot ↔
      registry.find? key = some slot ∧ key ∉ (registry.evictIdle now maxIdle held).1 := by
  have hafter : (registry.evictIdle now maxIdle held).2.Distinct := by
    rw [swept_eq]
    exact hdistinct.filter _
  have hkept : (registry.evictIdle now maxIdle held).2.find? key = some slot ↔
      registry.find? key = some slot ∧ registry.isIdle now maxIdle held slot = false := by
    rw [hafter.find?_eq_some_iff, hdistinct.find?_eq_some_iff, swept_eq]
    simp
  rw [hkept, hdistinct.mem_evicted_iff]
  refine and_congr_right fun hfind => ?_
  simp [hfind]

end Registry

/-! ## Holders -/

namespace Holders

variable {holders : Holders} {name other : String} {slot found : SlotId}

/-- A name holds one slot. -/
def Distinct (holders : Holders) : Prop :=
  (holders.toList.map Prod.fst).Nodup

lemma slot?_release : (holders.release name).slot? other =
    if other = name then none else holders.slot? other :=
  lookup_filter_ne holders.toList name other

lemma slot?_put : (holders.put name found).slot? other =
    if other = name then some found else holders.slot? other := by
  by_cases hother : other = name
  · rw [if_pos hother, hother, slot?_put_self]
  · have hbeq : (other == name) = false := by simp [hother]
    rw [if_neg hother, slot?, put, List.lookup_cons, hbeq]
    exact slot?_release.trans (if_neg hother)

lemma slot?_putIf {name? : Option String} :
    (holders.putIf name? found).slot? other =
      if name? = some other then some found else holders.slot? other := by
  cases name? with
  | none => rfl
  | some name => simp [putIf, slot?_put, eq_comm]

lemma Distinct.release (hdistinct : holders.Distinct) (name : String) :
    (holders.release name).Distinct :=
  nodup_map_filter hdistinct _

lemma Distinct.putIf (hdistinct : holders.Distinct) (name? : Option String) (found : SlotId) :
    (holders.putIf name? found).Distinct := by
  cases name? with
  | none => exact hdistinct
  | some name =>
    refine List.nodup_cons.mpr ⟨?_, hdistinct.release name⟩
    simp [Holders.release]

lemma Distinct.slot?_eq_some_iff (hdistinct : holders.Distinct) :
    holders.slot? name = some slot ↔ (name, slot) ∈ holders.toList :=
  lookup_eq_some_iff_mem hdistinct

lemma Distinct.mem_namesOf_iff (hdistinct : holders.Distinct) :
    name ∈ holders.namesOf slot ↔ holders.slot? name = some slot := by
  simp [namesOf, hdistinct.slot?_eq_some_iff]

lemma Distinct.isHeld_iff (hdistinct : holders.Distinct) :
    holders.isHeld slot = true ↔ ∃ name, holders.slot? name = some slot := by
  simp [isHeld, hdistinct.slot?_eq_some_iff]

end Holders

/-! ## What callers see -/

namespace Custody

/-- The pair that a step looks up. -/
def Step.key? : Step → Option SlotKey
  | .get key _ | .getOrInsert key _ _ => some key
  | .release _ | .remove _ | .evictIdle _ => none

/-- The name under which a step holds the slot it is given. -/
def Step.holder? : Step → Option String
  | .get _ name? | .getOrInsert _ _ name? => name?
  | .release _ | .remove _ | .evictIdle _ => none

/-- The slot that a step is given. -/
def given? (now : Nat) (custody : Custody) : Step → Option SlotId
  | .get key _ => (custody.registry.get now key).map Prod.fst
  | .getOrInsert key view _ => some (custody.registry.getOrInsert now key view).1
  | .release _ | .remove _ | .evictIdle _ => none

/-- A step at some time, the slot it was given and what was told. -/
structure Event where
  now : Nat
  step : Step
  given? : Option SlotId
  result : Result

/-- The step as it would be taken now. -/
def event (custody : Custody) (now : Nat) (step : Step) : Event :=
  ⟨now, step, custody.given? now step, (custody.step now step).1⟩

/-- The events may have happened since the beginning, and this is what they have led to. -/
inductive Reached : List Event → Custody → Prop where
  | started : Reached [] .empty
  | stepped {events : List Event} {custody : Custody} (hreached : Reached events custody)
      (now : Nat) (step : Step) :
      Reached (events ++ [custody.event now step]) (custody.step now step).2

namespace Event

/-- A look-up of a pair is given a slot. -/
def Gives (event : Event) (key : SlotKey) (slot : SlotId) : Prop :=
  event.step.key? = some key ∧ event.given? = some slot

/-- A look-up of a pair has made a slot. -/
def Makes (event : Event) (key : SlotKey) : Prop :=
  event.step.key? = some key ∧ ∃ names, event.result = .slot true names

/-- A pair is removed or evicted. -/
def Unmounts (event : Event) (key : SlotKey) : Prop :=
  event.step = .remove key ∨ ∃ keys, event.result = .evicted keys ∧ key ∈ keys

/-- A name comes to hold a slot. -/
def Hands (event : Event) (name : String) (slot : SlotId) : Prop :=
  event.step.holder? = some name ∧ event.given? = some slot

/-- A name holds what it held no longer: it is released, or it holds what it is given instead. -/
def Frees (event : Event) (name : String) : Prop :=
  event.step = .release name ∨ ∃ slot, event.Hands name slot

end Event

/-- The pair was given the slot and not unmounted since. -/
def Current (events : List Event) (key : SlotKey) (slot : SlotId) : Prop :=
  Since (fun event => event.Gives key slot) (fun event => event.Unmounts key) events

/-- The pair was inserted and not unmounted since. -/
def Mounted (events : List Event) (key : SlotKey) : Prop :=
  Since (fun event => event.Makes key) (fun event => event.Unmounts key) events

/-- The name was given the slot to hold and has neither released nor replaced it since. -/
def Held (events : List Event) (name : String) (slot : SlotId) : Prop :=
  Since (fun event => event.Hands name slot) (fun event => event.Frees name) events

/-- The slot was given at this time and not since. -/
def LastGiven (events : List Event) (slot : SlotId) (time : Nat) : Prop :=
  Since (fun event => event.given? = some slot ∧ event.now = time)
    (fun event => event.given? = some slot) events

/-! ## One step -/

/-- What a step does, is given and tells. -/
inductive Taken (custody : Custody) (now : Nat) : Event → Custody → Prop where
  | missed {key : SlotKey} {name? : Option String} (hfind : custody.registry.find? key = none) :
      Taken custody now ⟨now, .get key name?, none, .found false⟩ custody
  | got {key : SlotKey} {name? : Option String} {slot : SlotId}
      (hfind : custody.registry.find? key = some slot) :
      Taken custody now ⟨now, .get key name?, some slot, .found true⟩
        ⟨custody.registry.touch now slot, custody.holders.putIf name? slot⟩
  | reused {key : SlotKey} {view : View} {name? : Option String} {slot : SlotId}
      (hfind : custody.registry.find? key = some slot) :
      Taken custody now
        ⟨now, .getOrInsert key view name?, some slot, .slot false (custody.holders.namesOf slot)⟩
        ⟨custody.registry.touch now slot, custody.holders.putIf name? slot⟩
  | made {key : SlotKey} {view : View} {name? : Option String}
      (hfind : custody.registry.find? key = none) :
      Taken custody now
        ⟨now, .getOrInsert key view name?, some custody.registry.slots.length,
          .slot true (custody.holders.namesOf custody.registry.slots.length)⟩
        ⟨custody.registry.add key ⟨view, now⟩,
          custody.holders.putIf name? custody.registry.slots.length⟩
  | released {name : String} :
      Taken custody now
        ⟨now, .release name, none, .found (custody.holders.slot? name).isSome⟩
        { custody with holders := custody.holders.release name }
  | removed {key : SlotKey} :
      Taken custody now
        ⟨now, .remove key, none, .found (custody.registry.find? key).isSome⟩
        { custody with registry := (custody.registry.remove key).2 }
  | swept {maxIdle : Nat} :
      Taken custody now
        ⟨now, .evictIdle maxIdle, none,
          .evicted (custody.registry.evictIdle now maxIdle custody.holders.isHeld).1⟩
        { custody with
          registry := (custody.registry.evictIdle now maxIdle custody.holders.isHeld).2 }

section

variable {custody after : Custody} {now time : Nat} {event : Event} {key other : SlotKey}
  {slot : SlotId} {name : String} {events : List Event}

lemma taken_step (custody : Custody) (now : Nat) (step : Step) :
    Taken custody now (custody.event now step) (custody.step now step).2 := by
  cases step with
  | get key name? =>
    cases hfind : custody.registry.find? key with
    | none =>
      have hget : custody.registry.get now key = none := by rw [Registry.get, hfind]; rfl
      simpa only [event, given?, Custody.step, hget, Option.map_none] using Taken.missed hfind
    | some slot =>
      have hget : custody.registry.get now key = some (slot, custody.registry.touch now slot) := by
        rw [Registry.get, hfind]; rfl
      simpa only [event, given?, Custody.step, hget, Option.map_some] using Taken.got hfind
  | getOrInsert key view name? =>
    cases hfind : custody.registry.find? key with
    | none =>
      simpa only [event, given?, Custody.step, Registry.getOrInsert_of_none hfind] using
        Taken.made hfind
    | some slot =>
      simpa only [event, given?, Custody.step, Registry.getOrInsert_of_some hfind] using
        Taken.reused hfind
  | release name => exact .released
  | remove key => exact .removed
  | evictIdle maxIdle => exact .swept

/-- The slot of a pair is the one it is given now, or the one it had if it is not unmounted. -/
lemma find?_of_taken (hdistinct : custody.registry.Distinct)
    (htaken : Taken custody now event after) :
    after.registry.find? key = some slot ↔
      event.Gives key slot ∨ custody.registry.find? key = some slot ∧ ¬event.Unmounts key := by
  unfold Event.Gives Event.Unmounts
  cases htaken with
  | missed => simp [Step.key?]
  | got hfind | reused hfind =>
    simp only [Registry.find?_touch, Step.key?]
    constructor
    · exact fun hcurrent => .inr ⟨hcurrent, by simp⟩
    · rintro (⟨hkey, hslot⟩ | ⟨hcurrent, -⟩)
      · cases hkey; cases hslot; exact hfind
      · exact hcurrent
  | @made found _ _ hfind =>
    by_cases hkey : found = key
    · subst hkey
      simp [Step.key?, Registry.find?_add_self hfind, hfind]
    · simp [Step.key?, Registry.find?_add_of_ne (Ne.symm hkey), hkey]
  | released => simp [Step.key?]
  | @removed found =>
    rw [Registry.find?_remove]
    by_cases hkey : key = found
    · simp [Step.key?, hkey]
    · simp [Step.key?, hkey, Ne.symm hkey]
  | swept =>
    rw [hdistinct.find?_swept]
    simp [Step.key?]

/-- A pair is mounted if a slot is made for it now, or if it was and is not unmounted. -/
lemma isSome_find?_of_taken (hdistinct : custody.registry.Distinct)
    (htaken : Taken custody now event after) :
    (after.registry.find? key).isSome = true ↔
      event.Makes key ∨ (custody.registry.find? key).isSome = true ∧ ¬event.Unmounts key := by
  have hmounted : (after.registry.find? key).isSome = true ↔
      (∃ slot, event.Gives key slot) ∨
        (custody.registry.find? key).isSome = true ∧ ¬event.Unmounts key := by
    simp only [Option.isSome_iff_exists, find?_of_taken hdistinct htaken, exists_or,
      exists_and_right]
  rw [hmounted]
  unfold Event.Gives Event.Makes Event.Unmounts
  cases htaken with
  | got hfind | reused hfind =>
    -- the slot was there before
    simp only [Step.key?, Option.some.injEq, Result.slot.injEq]
    constructor
    · rintro (⟨slot, rfl, -⟩ | hbefore)
      · exact .inr ⟨by simp [hfind], by simp⟩
      · exact .inr hbefore
    · rintro (⟨-, names, hresult⟩ | hbefore)
      · simp at hresult
      · exact .inr hbefore
  | _ => simp [Step.key?]

/-- A name holds what it is given now, or what it held if it does not let it go. -/
lemma slot?_of_taken (htaken : Taken custody now event after) :
    after.holders.slot? name = some slot ↔
      event.Hands name slot ∨ custody.holders.slot? name = some slot ∧ ¬event.Frees name := by
  unfold Event.Frees Event.Hands
  cases htaken with
  | @released found =>
    rw [Holders.slot?_release]
    by_cases hname : name = found
    · simp [Step.holder?, hname]
    · simp [Step.holder?, hname, Ne.symm hname]
  | @got _ name? | @reused _ _ name? | @made _ _ name? =>
    rw [Holders.slot?_putIf]
    by_cases hname : name? = some name <;> simp [Step.holder?, hname]
  | _ => simp [Step.holder?]

/-- A slot was last used now if it is given now, and else when it was before. -/
lemma lastUsed_of_taken (hdistinct : custody.registry.Distinct)
    (htaken : Taken custody now event after) :
    after.registry.slots[slot]?.map Slot.lastUsed = some time ↔
      (event.given? = some slot ∧ event.now = time) ∨
        custody.registry.slots[slot]?.map Slot.lastUsed = some time ∧
          ¬event.given? = some slot := by
  cases htaken with
  | @got _ _ given hfind | @reused _ _ _ given hfind =>
    have hlt := hdistinct.lt_length hfind
    by_cases hslot : given = slot
    · subst hslot
      simp [Registry.touch, hlt]
    · simp [Registry.touch, hslot]
  | @made _ view =>
    rcases Nat.lt_trichotomy slot custody.registry.slots.length with hlt | rfl | hlt
    · simp [Registry.add, List.getElem?_append_left hlt, (Nat.ne_of_lt hlt).symm]
    · simp [Registry.add]
    · have hold : custody.registry.slots[slot]? = none :=
        List.getElem?_eq_none (Nat.le_of_lt hlt)
      have hnew : (custody.registry.slots ++ [⟨view, now⟩])[slot]? = none :=
        List.getElem?_eq_none (List.length_append ▸ hlt)
      simp [Registry.add, hold, hnew, Nat.ne_of_lt hlt]
  | swept =>
    rw [Registry.swept_eq]
    simp
  | _ => simp [Registry.remove]

/-- A slot that is given was mounted for the pair, or it is made now. -/
lemma origin_of_gives (htaken : Taken custody now event after) (hgives : event.Gives key slot) :
    custody.registry.find? key = some slot ∨ slot = custody.registry.slots.length := by
  obtain ⟨hkey, hgiven⟩ := hgives
  cases htaken with
  | got hfind | reused hfind =>
    cases hkey
    cases hgiven
    exact .inl hfind
  | made =>
    cases hgiven
    exact .inr rfl
  | _ => cases hgiven

/-- Where a pair is mounted, its look-ups are given its slot. -/
lemma eq_of_gives {found : SlotId} (htaken : Taken custody now event after)
    (hfind : custody.registry.find? key = some found) (hgives : event.Gives key slot) :
    slot = found := by
  obtain ⟨hkey, hgiven⟩ := hgives
  cases htaken with
  | got hmounted | reused hmounted =>
    cases hkey
    cases hgiven
    exact Option.some.inj (hmounted.symm.trans hfind)
  | made hmissing =>
    cases hkey
    cases hmissing.symm.trans hfind
  | _ => cases hgiven

/-- What unmounts a pair gives no slot. -/
lemma not_gives_of_unmounts (htaken : Taken custody now event after)
    (hunmounts : event.Unmounts other) : ¬event.Gives key slot := by
  rintro ⟨hkey, hgiven⟩
  cases htaken with
  | removed => cases hgiven
  | swept => cases hgiven
  | _ => simp [Event.Unmounts] at hunmounts

/-- Slots are made and not destroyed. -/
lemma length_le_of_taken (htaken : Taken custody now event after) :
    custody.registry.slots.length ≤ after.registry.slots.length := by
  cases htaken <;> simp [Registry.touch, Registry.add, Registry.remove, Registry.swept_eq]

lemma lt_length_of_taken (hdistinct : custody.registry.Distinct)
    (htaken : Taken custody now event after) (hgiven : event.given? = some slot) :
    slot < after.registry.slots.length := by
  cases htaken with
  | got hfind | reused hfind =>
    cases hgiven
    simpa [Registry.touch] using hdistinct.lt_length hfind
  | made =>
    cases hgiven
    simp [Registry.add]
  | _ => cases hgiven

/-- A slot shows what it has shown. -/
lemma view?_of_taken (htaken : Taken custody now event after)
    (hlt : slot < custody.registry.slots.length) :
    after.registry.view? slot = custody.registry.view? slot := by
  cases htaken with
  | got | reused => exact Registry.view?_touch _ _ _ _
  | made => exact Registry.view?_add_of_lt hlt
  | swept => rw [Registry.swept_eq]; rfl
  | _ => rfl

/-- A slot that is made shows the view it is made with. -/
lemma shows_of_taken {view : View} {name? : Option String} {names : List String}
    (htaken : Taken custody now event after) (hstep : event.step = .getOrInsert key view name?)
    (hmade : event.result = .slot true names) (hgiven : event.given? = some slot) :
    after.registry.view? slot = some view := by
  cases htaken with
  | made =>
    cases hstep
    cases hgiven
    exact Registry.view?_add_length _
  | reused => cases hmade
  | _ => cases hstep

/-- The lists of a registry and of its holders name nothing twice. -/
structure Distinct (custody : Custody) : Prop where
  registry : custody.registry.Distinct
  holders : custody.holders.Distinct

lemma Distinct.of_taken (hdistinct : custody.Distinct) (htaken : Taken custody now event after) :
    after.Distinct := by
  cases htaken with
  | missed => exact hdistinct
  | got | reused => exact ⟨hdistinct.registry.touch _ _, hdistinct.holders.putIf _ _⟩
  | made hfind => exact ⟨hdistinct.registry.add hfind _, hdistinct.holders.putIf _ _⟩
  | released => exact ⟨hdistinct.registry, hdistinct.holders.release _⟩
  | removed => exact ⟨hdistinct.registry.filter _, hdistinct.holders⟩
  | swept =>
    refine ⟨?_, hdistinct.holders⟩
    rw [Registry.swept_eq]
    exact hdistinct.registry.filter _

/-! ## All steps -/

lemma Reached.distinct (hreached : Reached events custody) : custody.Distinct := by
  induction hreached with
  | started => exact ⟨Registry.distinct_empty, List.nodup_nil⟩
  | stepped _ now step ih => exact ih.of_taken (taken_step _ now step)

/-- What each step turns on or off is on where it was turned on and not off since. -/
lemma Reached.since_iff {P : Custody → Prop} {starts ends : Event → Prop} (hempty : ¬P .empty)
    (hstep : ∀ {custody now event after}, custody.Distinct → Taken custody now event after →
      (P after ↔ starts event ∨ P custody ∧ ¬ends event))
    (hreached : Reached events custody) : P custody ↔ Since starts ends events := by
  induction hreached with
  | started => simpa using hempty
  | stepped hreached now step ih =>
    rw [since_concat_iff, ← ih]
    exact hstep hreached.distinct (taken_step _ now step)

lemma Reached.current_iff (hreached : Reached events custody) :
    custody.registry.find? key = some slot ↔ Current events key slot :=
  hreached.since_iff (P := fun custody => custody.registry.find? key = some slot) nofun
    fun hdistinct htaken => find?_of_taken hdistinct.registry htaken

lemma Reached.mounted_iff (hreached : Reached events custody) :
    (custody.registry.find? key).isSome = true ↔ Mounted events key :=
  hreached.since_iff (P := fun custody => (custody.registry.find? key).isSome = true) nofun
    fun hdistinct htaken => isSome_find?_of_taken hdistinct.registry htaken

lemma Reached.held_iff (hreached : Reached events custody) :
    custody.holders.slot? name = some slot ↔ Held events name slot :=
  hreached.since_iff (P := fun custody => custody.holders.slot? name = some slot) nofun
    fun _ htaken => slot?_of_taken htaken

lemma Reached.lastGiven_iff (hreached : Reached events custody) :
    custody.registry.slots[slot]?.map Slot.lastUsed = some time ↔ LastGiven events slot time :=
  hreached.since_iff
    (P := fun custody => custody.registry.slots[slot]?.map Slot.lastUsed = some time) nofun
    fun hdistinct htaken => lastUsed_of_taken hdistinct.registry htaken

lemma Reached.lt_length (hreached : Reached events custody) {event : Event} (hmem : event ∈ events)
    (hgiven : event.given? = some slot) : slot < custody.registry.slots.length := by
  induction hreached with
  | started => cases hmem
  | @stepped _ custody hreached now step ih =>
    have htaken := taken_step custody now step
    rcases List.mem_append.mp hmem with hmem | hmem
    · exact Nat.lt_of_lt_of_le (ih hmem) (length_le_of_taken htaken)
    · obtain rfl := List.mem_singleton.mp hmem
      exact lt_length_of_taken hreached.distinct.registry htaken hgiven

/-- A slot of a pair that was unmounted since it was given is not the slot of the pair again. -/
lemma Reached.stale (hreached : Reached events custody) {past between : List Event} {first : Event}
    (hevents : events = past ++ first :: between) (hfirst : first.Gives key slot)
    (hunmounted : ∃ event ∈ between, event.Unmounts key) :
    custody.registry.find? key ≠ some slot := by
  induction hreached generalizing between with
  | started => simp at hevents
  | @stepped events custody hreached now step ih =>
    have htaken := taken_step custody now step
    obtain rfl | ⟨between, last, rfl⟩ := between.eq_nil_or_concat'
    · simp at hunmounted
    rw [← List.cons_append, ← List.append_assoc] at hevents
    obtain ⟨hbefore, hlast⟩ := List.append_inj' hevents rfl
    obtain rfl := List.singleton_inj.mp hlast
    obtain ⟨event, hmem, hunmounts⟩ := hunmounted
    intro hfind
    rw [find?_of_taken hreached.distinct.registry htaken] at hfind
    rcases List.mem_append.mp hmem with hmem | hmem
    · have hgone := ih hbefore ⟨event, hmem, hunmounts⟩
      rcases hfind with hgives | ⟨hfind, -⟩
      · rcases origin_of_gives htaken hgives with hfind | rfl
        · exact hgone hfind
        · exact absurd (hreached.lt_length (by simp [hbefore]) hfirst.2) (Nat.lt_irrefl _)
      · exact hgone hfind
    · obtain rfl := List.mem_singleton.mp hmem
      rcases hfind with hgives | ⟨-, hkept⟩
      · exact not_gives_of_unmounts htaken hunmounts hgives
      · exact hkept hunmounts

/-- Different pairs are not given one slot. -/
lemma Reached.apart (hreached : Reached events custody) {first second : Event}
    (hfirst : first ∈ events) (hsecond : second ∈ events) (hkey : first.Gives key slot)
    (hother : second.Gives other slot) : key = other := by
  induction hreached generalizing first second key other with
  | started => cases hfirst
  | @stepped events custody hreached now step ih =>
    have htaken := taken_step custody now step
    -- what was given before is given again only where it is mounted
    have hold : ∀ {before : Event} {given found : SlotKey}, before ∈ events →
        before.Gives found slot → (custody.event now step).Gives given slot → given = found := by
      intro before given found hmem hbefore hgives
      rcases origin_of_gives htaken hgives with hfind | rfl
      · obtain ⟨past, giving, future, hevents, hgiving, -⟩ := hreached.current_iff.mp hfind
        exact ih (by simp [hevents]) hmem hgiving hbefore
      · exact absurd (hreached.lt_length hmem hbefore.2) (Nat.lt_irrefl _)
    rcases List.mem_append.mp hfirst with hfirst | hfirst <;>
      rcases List.mem_append.mp hsecond with hsecond | hsecond
    · exact ih hfirst hsecond hkey hother
    · obtain rfl := List.mem_singleton.mp hsecond
      exact (hold hfirst hkey hother).symm
    · obtain rfl := List.mem_singleton.mp hfirst
      exact hold hsecond hother hkey
    · obtain rfl := List.mem_singleton.mp hfirst
      obtain rfl := List.mem_singleton.mp hsecond
      exact Option.some.inj (hkey.1.symm.trans hother.1)

/-- A slot shows the view that it was made with. -/
lemma Reached.shows (hreached : Reached events custody) {event : Event} {view : View}
    {name? : Option String} {names : List String} (hmem : event ∈ events)
    (hstep : event.step = .getOrInsert key view name?) (hmade : event.result = .slot true names)
    (hgiven : event.given? = some slot) : custody.registry.view? slot = some view := by
  induction hreached with
  | started => cases hmem
  | @stepped events custody hreached now step ih =>
    have htaken := taken_step custody now step
    rcases List.mem_append.mp hmem with hmem | hmem
    · rw [view?_of_taken htaken (hreached.lt_length hmem hgiven)]
      exact ih hmem
    · obtain rfl := List.mem_singleton.mp hmem
      exact shows_of_taken htaken hstep hmade hgiven

/-! ## References -/

/-- How often a slot is referred to, by a mount or by a holder. -/
def references (custody : Custody) (slot : SlotId) : Nat :=
  (custody.registry.mounted.map Prod.snd).count slot +
    (custody.holders.toList.map Prod.snd).count slot

/-- A mounted slot is referred to once if nobody holds it. -/
lemma Distinct.references_eq_one_iff (hdistinct : custody.Distinct)
    (hfind : custody.registry.find? key = some slot) :
    custody.references slot = 1 ↔ ∀ name, custody.holders.slot? name ≠ some slot := by
  have hmounted : (custody.registry.mounted.map Prod.snd).count slot = 1 :=
    List.count_eq_one_of_mem hdistinct.registry.slots
      (List.mem_map_of_mem (Registry.mem_of_find? hfind))
  rw [references, hmounted, Nat.add_eq_left, List.count_eq_zero]
  simp [hdistinct.holders.slot?_eq_some_iff]

/-! ## What steps come to -/

/-- What a sweep of the pairs comes to. -/
structure Sweeps (events : List Event) (custody : Custody) (now maxIdle : Nat)
    (keys : List SlotKey) : Prop where
  nodup : keys.Nodup
  /-- A pair is evicted if nobody holds its slot and the slot was not given for long enough. -/
  idle (key : SlotKey) : key ∈ keys ↔ ∃ slot time, Current events key slot ∧
    (∀ name, ¬Held events name slot) ∧ LastGiven events slot time ∧ maxIdle ≤ now - time
  /-- With no time to wait, it is evicted if nobody holds the slot that it has now. -/
  unheld (hzero : maxIdle = 0) (key : SlotKey) : key ∈ keys ↔
    ∃ slot, Current events key slot ∧ ∀ name, ¬Held events name slot
  /-- With more time to wait than has gone by, no pair is. -/
  recent (hlong : ∀ event ∈ events, now - event.now < maxIdle) : keys = []
  /-- Other pairs keep their slots. -/
  find? (key : SlotKey) : (custody.step now (.evictIdle maxIdle)).2.registry.find? key =
    if key ∈ keys then none else custody.registry.find? key
  slots : (custody.step now (.evictIdle maxIdle)).2.registry.slots = custody.registry.slots
  holders : (custody.step now (.evictIdle maxIdle)).2.holders = custody.holders

/-- What has happened determines what a step will do. -/
structure Faithful (events : List Event) (custody : Custody) : Prop where
  current (key : SlotKey) (slot : SlotId) :
    custody.registry.find? key = some slot ↔ Current events key slot
  /-- A name holds what it was given, unmounted or not. -/
  held (name : String) (slot : SlotId) :
    custody.holders.slot? name = some slot ↔ Held events name slot
  /-- A slot shows what it was made with, mounted or not. -/
  shows {event : Event} {key : SlotKey} {view : View} {name? : Option String} {slot : SlotId}
    {names : List String} (hmem : event ∈ events) (hstep : event.step = .getOrInsert key view name?)
    (hmade : event.result = .slot true names) (hgiven : event.given? = some slot) :
    custody.registry.view? slot = some view
  /-- Two look-ups of a pair are given one slot if the pair is not unmounted between them, and only
  then. -/
  same {past between : List Event} {first : Event} {key : SlotKey} {slot again : SlotId} {now : Nat}
    {step : Step} (hevents : events = past ++ first :: between) (hfirst : first.Gives key slot)
    (hagain : (custody.event now step).Gives key again) :
    again = slot ↔ ∀ event ∈ between, ¬event.Unmounts key
  /-- Look-ups of different pairs are never given one slot. -/
  apart {first second : Event} {key other : SlotKey} {slot : SlotId} (hfirst : first ∈ events)
    (hsecond : second ∈ events) (hkey : first.Gives key slot) (hother : second.Gives other slot) :
    key = other
  get (now : Nat) (key : SlotKey) (name? : Option String) :
    ∃ given? found, custody.event now (.get key name?) =
        ⟨now, .get key name?, given?, .found found⟩ ∧
      (found = true ↔ Mounted events key) ∧ given?.isSome = found
  /-- A slot is made where the pair is not mounted, and it is one that was never given before. -/
  getOrInsert (now : Nat) (key : SlotKey) (view : View) (name? : Option String) :
    ∃ slot made names, custody.event now (.getOrInsert key view name?) =
        ⟨now, .getOrInsert key view name?, some slot, .slot made names⟩ ∧
      (made = true ↔ ¬Mounted events key) ∧
      (made = true → ∀ event ∈ events, event.given? ≠ some slot) ∧
      ∀ name, name ∈ names ↔ Held events name slot
  release (now : Nat) (name : String) : ∃ found,
    (custody.event now (.release name)).result = .found found ∧
      (found = true ↔ ∃ slot, Held events name slot)
  remove (now : Nat) (key : SlotKey) : ∃ found,
    (custody.event now (.remove key)).result = .found found ∧ (found = true ↔ Mounted events key)
  evictIdle (now maxIdle : Nat) : ∃ keys,
    (custody.event now (.evictIdle maxIdle)).result = .evicted keys ∧
      Sweeps events custody now maxIdle keys
  /-- A mounted slot is referred to by its mount alone if nobody holds it. -/
  references {key : SlotKey} {slot : SlotId} (hcurrent : Current events key slot) :
    custody.references slot = 1 ↔ ∀ name, ¬Held events name slot
  /-- The size is the number of pairs that were inserted and not unmounted since. -/
  size : ∃ keys : List SlotKey, keys.Nodup ∧ (∀ key, key ∈ keys ↔ Mounted events key) ∧
    custody.registry.size = keys.length ∧ (custody.registry.isEmpty = true ↔ keys = [])

lemma Reached.same (hreached : Reached events custody) {past between : List Event} {first : Event}
    {again : SlotId} {step : Step} (hevents : events = past ++ first :: between)
    (hfirst : first.Gives key slot) (hagain : (custody.event now step).Gives key again) :
    again = slot ↔ ∀ event ∈ between, ¬event.Unmounts key := by
  have htaken := taken_step custody now step
  constructor
  · rintro rfl event hmem hunmounts
    rcases origin_of_gives htaken hagain with hfind | rfl
    · exact hreached.stale hevents hfirst ⟨event, hmem, hunmounts⟩ hfind
    · exact Nat.lt_irrefl _ (hreached.lt_length (by simp [hevents]) hfirst.2)
  · intro hkept
    have hfind := hreached.current_iff.mpr ⟨past, first, between, hevents, hfirst, hkept⟩
    exact eq_of_gives htaken hfind hagain

lemma Reached.sweeps (hreached : Reached events custody) (now maxIdle : Nat) :
    Sweeps events custody now maxIdle
      (custody.registry.evictIdle now maxIdle custody.holders.isHeld).1 := by
  have hdistinct := hreached.distinct
  have hidle : ∀ key, key ∈ (custody.registry.evictIdle now maxIdle custody.holders.isHeld).1 ↔
      ∃ slot time, Current events key slot ∧ (∀ name, ¬Held events name slot) ∧
        LastGiven events slot time ∧ maxIdle ≤ now - time := by
    intro key
    rw [hdistinct.registry.mem_evicted_iff]
    refine exists_congr fun slot => ?_
    simp only [← hreached.current_iff, ← hreached.held_iff, ← hreached.lastGiven_iff,
      exists_and_left]
    refine and_congr_right fun hfind => ?_
    have hheld : custody.holders.isHeld slot = false ↔
        ∀ name, ¬custody.holders.slot? name = some slot := by
      rw [← Bool.not_eq_true, hdistinct.holders.isHeld_iff, not_exists]
    have hlt := hdistinct.registry.lt_length hfind
    simp [Registry.isIdle, hheld, List.getElem?_eq_getElem hlt]
  have hused : ∀ {key slot}, Current events key slot → ∃ time, LastGiven events slot time := by
    intro key slot hcurrent
    have hlt := hdistinct.registry.lt_length (hreached.current_iff.mpr hcurrent)
    exact ⟨_, hreached.lastGiven_iff.mp (by rw [List.getElem?_eq_getElem hlt]; rfl)⟩
  refine ⟨?_, hidle, fun hzero key => ?_, fun hlong => ?_, fun key => ?_, ?_, rfl⟩
  · rw [Registry.evicted_eq]
    exact nodup_map_filter hdistinct.registry.keys _
  · rw [hidle]
    refine exists_congr fun slot => ⟨?_, ?_⟩
    · rintro ⟨time, hcurrent, hheld, -⟩
      exact ⟨hcurrent, hheld⟩
    · rintro ⟨hcurrent, hheld⟩
      obtain ⟨time, hgiven⟩ := hused hcurrent
      exact ⟨time, hcurrent, hheld, hgiven, hzero ▸ Nat.zero_le _⟩
  · refine List.eq_nil_iff_forall_not_mem.mpr fun key hmem => ?_
    obtain ⟨slot, time, -, -, ⟨past, event, future, rfl, ⟨-, rfl⟩, -⟩, hwaited⟩ :=
      (hidle key).mp hmem
    exact Nat.not_le_of_lt (hlong event (by simp)) hwaited
  · refine Option.ext fun slot => ?_
    show (custody.registry.evictIdle now maxIdle custody.holders.isHeld).2.find? key = _ ↔ _
    rw [hdistinct.registry.find?_swept]
    split
    · next hmem => simp [hmem]
    · next hmem => simp [hmem]
  · show (custody.registry.evictIdle now maxIdle custody.holders.isHeld).2.slots = _
    rw [Registry.swept_eq]

/-- **Slots and their holders.**  Whatever sequence of look-ups, removals, releases and sweeps has
been taken, it determines what a further step does: a pair keeps one slot from the look-up that
makes it until it is unmounted and is given a new one after that, a slot belongs to one pair and to
whoever holds it, and a sweep takes just the pairs whose present slots are idle. -/
theorem custody_faithful (hreached : Reached events custody) : Faithful events custody where
  current _ _ := hreached.current_iff
  held _ _ := hreached.held_iff
  shows := hreached.shows
  same := hreached.same
  apart := hreached.apart
  get now key name? := by
    rw [← hreached.mounted_iff]
    refine ⟨custody.registry.find? key, _, ?_, Iff.rfl, rfl⟩
    cases hfind : custody.registry.find? key <;>
      simp [event, given?, Custody.step, Registry.get, hfind]
  getOrInsert now key view name? := by
    have hnames : ∀ {name slot}, name ∈ custody.holders.namesOf slot ↔ Held events name slot :=
      hreached.distinct.holders.mem_namesOf_iff.trans hreached.held_iff
    rw [← hreached.mounted_iff]
    cases hfind : custody.registry.find? key with
    | none =>
      refine ⟨custody.registry.slots.length, true, _, ?_, by simp, fun _ event hmem hgiven => ?_,
        fun name => hnames⟩
      · simp only [event, given?, Custody.step, Registry.getOrInsert_of_none hfind]
      · exact Nat.lt_irrefl _ (hreached.lt_length hmem hgiven)
    | some slot =>
      refine ⟨slot, false, _, ?_, by simp, nofun, fun name => hnames⟩
      simp only [event, given?, Custody.step, Registry.getOrInsert_of_some hfind]
  release now name := by
    simp only [← hreached.held_iff, ← Option.isSome_iff_exists]
    exact ⟨_, rfl, Iff.rfl⟩
  remove now key := by
    rw [← hreached.mounted_iff]
    exact ⟨_, rfl, Iff.rfl⟩
  evictIdle now maxIdle := ⟨_, rfl, hreached.sweeps now maxIdle⟩
  references hcurrent := by
    simp only [← hreached.held_iff]
    exact hreached.distinct.references_eq_one_iff (hreached.current_iff.mpr hcurrent)
  size := by
    refine ⟨custody.registry.mounted.map Prod.fst, hreached.distinct.registry.keys, fun key => ?_,
      (List.length_map _).symm, by simp [Registry.isEmpty]⟩
    rw [← hreached.mounted_iff, Option.isSome_iff_exists]
    simp [hreached.distinct.registry.find?_eq_some_iff]

end

/-! A pair is unmounted while somebody holds its slot, and mounted anew. -/

/-- The text of an annotation as its author sees it. -/
def authorView : View := .fresh "A1" "author" "list files"

/-- A slot is made and held. -/
def mountedOnce : Custody :=
  (Custody.empty.step 1 (.getOrInsert authorView.key authorView (some "holder"))).2

/-- Its pair is removed. -/
def removedOnce : Custody := (mountedOnce.step 2 (.remove authorView.key)).2

/-- The pair is mounted anew. -/
def mountedAnew : Custody :=
  (removedOnce.step 3 (.getOrInsert authorView.key authorView none)).2

/-- The steps up to then. -/
def remounting : List Event :=
  [Custody.empty.event 1 (.getOrInsert authorView.key authorView (some "holder")),
    mountedOnce.event 2 (.remove authorView.key),
    removedOnce.event 3 (.getOrInsert authorView.key authorView none)]

/-- The holder keeps the first slot, the second one is a new one, and a sweep takes it. -/
theorem custody_faithful_remounted : Reached remounting mountedAnew ∧
    Held remounting "holder" 0 ∧ Current remounting authorView.key 1 ∧
    ∃ keys, (mountedAnew.event 4 (.evictIdle 0)).result = .evicted keys ∧
      authorView.key ∈ keys := by
  have hreached : Reached remounting mountedAnew :=
    ((Reached.started.stepped 1 _).stepped 2 _).stepped 3 _
  have hfaithful := custody_faithful hreached
  have hheld : Held remounting "holder" 0 := (hfaithful.held "holder" 0).mp (by decide)
  have hcurrent : Current remounting authorView.key 1 :=
    (hfaithful.current authorView.key 1).mp (by decide)
  obtain ⟨keys, hresult, hsweeps⟩ := hfaithful.evictIdle 4 0
  refine ⟨hreached, hheld, hcurrent, keys, hresult, ?_⟩
  -- nobody but the holder of the first slot holds anything
  refine (hsweeps.unheld rfl _).mpr ⟨1, hcurrent, fun name hname => ?_⟩
  have hslot := (hfaithful.held name 1).mpr hname
  have hholders : mountedAnew.holders = ⟨[("holder", 0)]⟩ := by decide
  rw [hholders, Holders.slot?, List.lookup_cons] at hslot
  split at hslot <;> simp at hslot

end Custody

end AnnotationReview
