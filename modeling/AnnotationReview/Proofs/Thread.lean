import AnnotationReview.Thread
import Mathlib.Data.List.Forall2
import Mathlib.Tactic.Lemma

/-!
# Threads that keep their order

Entries are looked up by their index, and every law about a thread rests on there being one entry
for an index at most.  The invariant behind this is `Thread.Ordered`: indices increase along the
thread and stay below the counter.  One command keeps it, because all it does to a thread is to
change or take out the entry it addresses and to append one entry at the end (`Thread.Evolves`);
and the entries that are still there later are the ones that were there, in their order
(`Thread.Survives`).

The counter of indices is bounded, so appending keeps the order only below `UInt32.size`.
-/

namespace AnnotationReview

/-! ## Entries -/

/-- The later entry is the earlier one as far as an entry keeps what it was appended with: only its
status may be another, and it may have been hidden. -/
structure Entry.Becomes (early late : Entry) : Prop where
  index : late.index = early.index
  update : late.update = early.update
  hidden : early.hidden = true → late.hidden = true

namespace Entry.Becomes

lemma refl (entry : Entry) : entry.Becomes entry := ⟨rfl, rfl, id⟩

lemma trans {first middle last : Entry} (hfirst : first.Becomes middle)
    (hlast : middle.Becomes last) : first.Becomes last :=
  ⟨hlast.index.trans hfirst.index, hlast.update.trans hfirst.update,
    fun hhidden => hlast.hidden (hfirst.hidden hhidden)⟩

lemma setStatus (entry : Entry) (status : Option Status) :
    entry.Becomes { entry with status } := ⟨rfl, rfl, id⟩

end Entry.Becomes

/-- The entries that are left after a command: at most the addressed one is another or is gone. -/
inductive Touches (addressed? : Option UInt32) : List Entry → List Entry → Prop where
  | nothing (entries : List Entry) : Touches addressed? entries entries
  | changed {entry changed : Entry} (rest : List Entry)
      (haddressed : addressed? = some entry.index) (hbecomes : entry.Becomes changed) :
      Touches addressed? (entry :: rest) (changed :: rest)
  | removed {entry : Entry} (rest : List Entry) (haddressed : addressed? = some entry.index) :
      Touches addressed? (entry :: rest) rest
  | further (entry : Entry) {rest left : List Entry} (htouches : Touches addressed? rest left) :
      Touches addressed? (entry :: rest) (entry :: left)

/-- The entries are early ones in their order; those that are missing were taken out. -/
abbrev Survivors : List Entry → List Entry → Prop :=
  List.SublistForall₂ fun late early => early.Becomes late

namespace Survivors

variable {first middle last front back : List Entry}

lemma refl (entries : List Entry) : Survivors entries entries := by
  induction entries with
  | nil => exact .nil
  | cons entry rest ih => exact .cons (.refl entry) ih

lemma trans (hlast : Survivors last middle) (hmiddle : Survivors middle first) :
    Survivors last first := by
  induction hmiddle generalizing last with
  | nil =>
    cases hlast
    exact .nil
  | cons hbecomes _ ih =>
    cases hlast with
    | nil => exact .nil
    | cons hlater hrest => exact .cons (hbecomes.trans hlater) (ih hrest)
    | cons_right hrest => exact .cons_right (ih hrest)
  | cons_right _ ih => exact .cons_right (ih hlast)

/-- What survives of two lists in a row survives of the first and then of the second. -/
lemma exists_append (hlast : Survivors last (front ++ back)) :
    ∃ earlier later, last = earlier ++ later ∧ Survivors earlier front ∧ Survivors later back := by
  induction front generalizing last with
  | nil => exact ⟨[], last, rfl, .nil, hlast⟩
  | cons entry front ih =>
    cases hlast with
    | nil => exact ⟨[], [], rfl, .nil, .nil⟩
    | @cons survivor _ rest _ hbecomes hrest =>
      obtain ⟨earlier, later, rfl, hearlier, hlater⟩ := ih hrest
      exact ⟨survivor :: earlier, later, rfl, .cons hbecomes hearlier, hlater⟩
    | cons_right hrest =>
      obtain ⟨earlier, later, rfl, hearlier, hlater⟩ := ih hrest
      exact ⟨earlier, later, rfl, .cons_right hearlier, hlater⟩

lemma exists_origin (hlast : Survivors last first) {entry : Entry} (hmem : entry ∈ last) :
    ∃ original ∈ first, original.Becomes entry := by
  induction hlast with
  | nil => cases hmem
  | @cons survivor original _ _ hbecomes _ ih =>
    rcases List.mem_cons.mp hmem with rfl | hmem
    · exact ⟨original, List.mem_cons_self, hbecomes⟩
    · obtain ⟨found, hfound, horigin⟩ := ih hmem
      exact ⟨found, List.mem_cons_of_mem _ hfound, horigin⟩
  | cons_right _ ih =>
    obtain ⟨found, hfound, horigin⟩ := ih hmem
    exact ⟨found, List.mem_cons_of_mem _ hfound, horigin⟩

lemma index_sublist (hlast : Survivors last first) :
    (last.map Entry.index).Sublist (first.map Entry.index) := by
  induction hlast with
  | nil => exact List.nil_sublist _
  | cons hbecomes _ ih =>
    rw [List.map_cons, List.map_cons, hbecomes.index]
    exact ih.cons_cons _
  | cons_right _ ih => exact ih.cons _

end Survivors

namespace Touches

variable {addressed? : Option UInt32} {before left : List Entry}

lemma survivors (htouches : Touches addressed? before left) : Survivors left before := by
  induction htouches with
  | nothing entries => exact .refl entries
  | changed rest haddressed hbecomes => exact .cons hbecomes (Survivors.refl rest)
  | removed rest haddressed => exact .cons_right (Survivors.refl rest)
  | further entry _ ih => exact .cons (.refl entry) ih

end Touches

/-- The entry with what was found of its status; what was known stays if nothing was found. -/
def Entry.noting (entry : Entry) (status? : Option Status) : Entry :=
  { entry with status := status?.or entry.status }

/-! ## Threads -/

namespace Thread

/-- Indices increase along the thread and have all been handed out. -/
structure Ordered (thread : Thread) : Prop where
  increasing : (thread.entries.map Entry.index).Pairwise (· < ·)
  below : ∀ entry ∈ thread.entries, entry.index < thread.nextIndex

/-- What one command does to a thread: the entries that are left come first, and a new entry comes
last, visible and under the next index. -/
structure Evolves (addressed? : Option UInt32) (before : Thread) (appended? : Option Entry)
    (after : Thread) : Prop where
  entries : ∃ left, Touches addressed? before.entries left ∧
    after.entries = left ++ appended?.toList
  counter : after.nextIndex.toNat = before.nextIndex.toNat + appended?.toList.length
  appended : ∀ entry ∈ appended?, entry.index = before.nextIndex ∧ entry.hidden = false

/-- The later thread begins with what is left of the earlier one, and whatever was appended since
has an index that had not been handed out. -/
structure Survives (early late : Thread) : Prop where
  entries : ∃ survivors later, late.entries = survivors ++ later ∧
    Survivors survivors early.entries ∧ ∀ entry ∈ later, early.nextIndex ≤ entry.index
  counter : early.nextIndex ≤ late.nextIndex

variable {addressed? : Option UInt32} {appended? : Option Entry} {before after : Thread}

/-! ## The first entry with an index -/

section

variable {thread : Thread} {index : UInt32} {change : Entry → Entry}

lemma modify_cons (entry : Entry) (rest : List Entry) (next index : UInt32)
    (change : Entry → Entry) : (⟨entry :: rest, next⟩ : Thread).modify index change =
      if entry.index = index then ⟨change entry :: rest, next⟩
      else ⟨entry :: ((⟨rest, next⟩ : Thread).modify index change).entries, next⟩ := by
  show Thread.mk ((entry :: rest).modify ((entry :: rest).findIdx (·.index == index)) change) _ = _
  rw [List.findIdx_cons]
  split
  next haddressed =>
    rw [beq_iff_eq.mpr haddressed]
    rfl
  next hother =>
    rw [beq_false_of_ne hother]
    rfl

lemma erase_cons (entry : Entry) (rest : List Entry) (next index : UInt32) :
    (⟨entry :: rest, next⟩ : Thread).erase index =
      if entry.index = index then ⟨rest, next⟩
      else ⟨entry :: ((⟨rest, next⟩ : Thread).erase index).entries, next⟩ := by
  show Thread.mk ((entry :: rest).eraseP (·.index == index)) _ = _
  split
  next haddressed => rw [List.eraseP_cons_of_pos (by simpa using haddressed)]
  next hother =>
    rw [List.eraseP_cons_of_neg (by simpa using hother)]
    rfl

/-- A change touches the first entry with the index at most. -/
lemma touches_modify (hchange : ∀ entry : Entry, entry.Becomes (change entry)) (thread : Thread)
    (index : UInt32) :
    Touches (some index) thread.entries (thread.modify index change).entries := by
  obtain ⟨entries, next⟩ := thread
  induction entries with
  | nil => exact .nothing []
  | cons entry rest ih =>
    rw [modify_cons]
    split
    next haddressed => exact .changed rest (congrArg some haddressed.symm) (hchange entry)
    next => exact .further entry ih

/-- No more than the first entry with the index is taken out. -/
lemma touches_erase (thread : Thread) (index : UInt32) :
    Touches (some index) thread.entries (thread.erase index).entries := by
  obtain ⟨entries, next⟩ := thread
  induction entries with
  | nil => exact .nothing []
  | cons entry rest ih =>
    rw [erase_cons]
    split
    next haddressed => exact .removed rest (congrArg some haddressed.symm)
    next => exact .further entry ih

/-- What a change leaves alone of an entry it leaves alone of all entries. -/
lemma map_entries_modify {α : Type} {f : Entry → α} (hchange : ∀ entry, f (change entry) = f entry)
    (thread : Thread) (index : UInt32) :
    (thread.modify index change).entries.map f = thread.entries.map f := by
  obtain ⟨entries, next⟩ := thread
  induction entries with
  | nil => rfl
  | cons entry rest ih =>
    rw [modify_cons]
    split
    · rw [List.map_cons, List.map_cons, hchange]
    · rw [List.map_cons, List.map_cons, ih]

/-- An entry after a change was there before or is the one that was changed. -/
lemma exists_of_mem_modify {entry : Entry} (hmem : entry ∈ (thread.modify index change).entries) :
    entry ∈ thread.entries ∨
      ∃ original ∈ thread.entries, original.index = index ∧ entry = change original := by
  obtain ⟨entries, next⟩ := thread
  induction entries with
  | nil => exact .inl hmem
  | cons first rest ih =>
    rw [modify_cons] at hmem
    split at hmem
    next haddressed =>
      rcases List.mem_cons.mp hmem with rfl | hmem
      · exact .inr ⟨first, List.mem_cons_self, haddressed, rfl⟩
      · exact .inl (List.mem_cons_of_mem _ hmem)
    next =>
      rcases List.mem_cons.mp hmem with rfl | hmem
      · exact .inl List.mem_cons_self
      · refine (ih hmem).imp (List.mem_cons_of_mem _) ?_
        rintro ⟨original, horiginal, hchanged⟩
        exact ⟨original, List.mem_cons_of_mem _ horiginal, hchanged⟩

/-- Entries further back are not looked at once one with the index is found. -/
lemma entries_modify_append_of_mem {front : List Entry} (back : List Entry) (next : UInt32)
    (change : Entry → Entry) {entry : Entry} (hmem : entry ∈ front) :
    ((⟨front ++ back, next⟩ : Thread).modify entry.index change).entries =
      ((⟨front, next⟩ : Thread).modify entry.index change).entries ++ back := by
  induction front with
  | nil => cases hmem
  | cons first rest ih =>
    rw [List.cons_append, modify_cons, modify_cons]
    split
    · rfl
    next hother =>
      rcases List.mem_cons.mp hmem with rfl | hmem
      · exact absurd rfl hother
      · rw [ih hmem, List.cons_append]

/-- Entries with other indices are passed over. -/
lemma entries_modify_append_of_ne {front : List Entry} (back : List Entry) (next : UInt32)
    (change : Entry → Entry) (hothers : ∀ entry ∈ front, entry.index ≠ index) :
    ((⟨front ++ back, next⟩ : Thread).modify index change).entries =
      front ++ ((⟨back, next⟩ : Thread).modify index change).entries := by
  induction front with
  | nil => rfl
  | cons first rest ih =>
    obtain ⟨hfirst, hrest⟩ := List.forall_mem_cons.mp hothers
    rw [List.cons_append, modify_cons, if_neg hfirst, ih hrest, List.cons_append]

end

/-! ## Order -/

/-- No entry has the index that the next one receives. -/
lemma Ordered.index_ne_nextIndex (hbefore : before.Ordered) :
    ∀ entry ∈ before.entries, entry.index ≠ before.nextIndex := by
  intro entry hmem hsame
  have hearlier := hbefore.below entry hmem
  rw [hsame] at hearlier
  exact absurd hearlier (UInt32.lt_irrefl _)

/-- A change that keeps indices keeps the order. -/
lemma Ordered.modify (hbefore : before.Ordered) (index : UInt32) {change : Entry → Entry}
    (hchange : ∀ entry, (change entry).index = entry.index) :
    (before.modify index change).Ordered := by
  have hindices : (before.modify index change).entries.map Entry.index =
      before.entries.map Entry.index := map_entries_modify hchange before index
  refine ⟨hindices ▸ hbefore.increasing, fun entry hmem => ?_⟩
  rcases exists_of_mem_modify hmem with hmem | ⟨original, horiginal, -, rfl⟩
  · exact hbefore.below entry hmem
  · rw [hchange]
    exact hbefore.below original horiginal

section

variable {index : UInt32} {entry : Entry}

/-- Where indices increase, the entries after one have other indices. -/
lemma index_ne_of_increasing {first : Entry} {rest : List Entry}
    (hincreasing : ((first :: rest).map Entry.index).Pairwise (· < ·)) (hmem : entry ∈ rest) :
    entry.index ≠ first.index := by
  obtain ⟨hfirst, -⟩ := List.pairwise_cons.mp hincreasing
  have hlater : first.index < entry.index := hfirst entry.index (List.mem_map_of_mem hmem)
  intro hsame
  rw [hsame] at hlater
  exact absurd hlater (UInt32.lt_irrefl _)

/-- Where indices increase, the entry with an index is the one that was changed. -/
lemma Ordered.exists_of_mem_modify (hbefore : before.Ordered) {change : Entry → Entry}
    (hmem : entry ∈ (before.modify index change).entries) (hindex : entry.index = index) :
    ∃ original, entry = change original := by
  obtain ⟨entries, next⟩ := before
  have hincreasing := hbefore.increasing
  clear hbefore
  induction entries with
  | nil => cases hmem
  | cons first rest ih =>
    rw [modify_cons] at hmem
    split at hmem
    next haddressed =>
      rcases List.mem_cons.mp hmem with rfl | hmem
      · exact ⟨first, rfl⟩
      · exact absurd (hindex.trans haddressed.symm) (index_ne_of_increasing hincreasing hmem)
    next hother =>
      rcases List.mem_cons.mp hmem with rfl | hmem
      · exact absurd hindex hother
      · exact ih hmem (List.pairwise_cons.mp hincreasing).2

/-- Where indices increase, no entry with the index is left once one is taken out. -/
lemma Ordered.index_ne_of_mem_erase (hbefore : before.Ordered)
    (hmem : entry ∈ (before.erase index).entries) : entry.index ≠ index := by
  obtain ⟨entries, next⟩ := before
  have hincreasing := hbefore.increasing
  clear hbefore
  induction entries with
  | nil => cases hmem
  | cons first rest ih =>
    rw [erase_cons] at hmem
    split at hmem
    next haddressed =>
      rw [← haddressed]
      exact index_ne_of_increasing hincreasing hmem
    next hother =>
      rcases List.mem_cons.mp hmem with rfl | hmem
      · exact hother
      · exact ih hmem (List.pairwise_cons.mp hincreasing).2

end

namespace Evolves

/-- One command keeps a thread ordered. -/
lemma ordered (hevolves : before.Evolves addressed? appended? after) (hbefore : before.Ordered) :
    after.Ordered := by
  obtain ⟨left, htouches, hentries⟩ := hevolves.entries
  have hcounter := hevolves.counter
  have hleft := htouches.survivors.index_sublist
  have hbelow : ∀ entry ∈ left, entry.index < before.nextIndex := by
    intro entry hmem
    obtain ⟨original, horiginal, hindex⟩ :=
      List.mem_map.mp (hleft.subset (List.mem_map_of_mem hmem))
    rw [← hindex]
    exact hbefore.below original horiginal
  constructor
  · rw [hentries, List.map_append, List.pairwise_append]
    refine ⟨hbefore.increasing.sublist hleft, ?_, ?_⟩
    · cases appended? <;> simp
    · intro index hindex later hlater
      obtain ⟨entry, hentry, rfl⟩ := List.mem_map.mp hindex
      obtain ⟨appended, happended, rfl⟩ := List.mem_map.mp hlater
      rw [(hevolves.appended appended (by simpa using happended)).1]
      exact hbelow entry hentry
  · intro entry hmem
    rw [hentries, List.mem_append] at hmem
    rcases hmem with hmem | hmem
    · have hearlier := hbelow entry hmem
      rw [UInt32.lt_iff_toNat_lt] at hearlier ⊢
      omega
    · obtain rfl : appended? = some entry := by simpa using hmem
      rw [UInt32.lt_iff_toNat_lt, (hevolves.appended entry rfl).1, hcounter]
      simp

lemma survives (hevolves : before.Evolves addressed? appended? after) : before.Survives after := by
  obtain ⟨left, htouches, hentries⟩ := hevolves.entries
  refine ⟨⟨left, appended?.toList, hentries, htouches.survivors, ?_⟩, ?_⟩
  · intro entry hmem
    rw [(hevolves.appended entry (by simpa using hmem)).1]
    exact UInt32.le_refl _
  · rw [UInt32.le_iff_toNat_le, hevolves.counter]
    exact Nat.le_add_right _ _

end Evolves

namespace Survives

variable {first middle last : Thread}

lemma refl (thread : Thread) : thread.Survives thread :=
  ⟨⟨thread.entries, [], (List.append_nil _).symm, .refl _, by simp⟩, UInt32.le_refl _⟩

lemma trans (hmiddle : first.Survives middle) (hlast : middle.Survives last) :
    first.Survives last := by
  obtain ⟨kept, appended, hkept, hfirst, happended⟩ := hmiddle.entries
  obtain ⟨survivors, later, hsurvivors, hsurvived, hlater⟩ := hlast.entries
  rw [hkept] at hsurvived
  obtain ⟨old, new, rfl, hold, hnew⟩ := hsurvived.exists_append
  refine ⟨⟨old, new ++ later, by rw [hsurvivors, List.append_assoc], hold.trans hfirst, ?_⟩,
    UInt32.le_trans hmiddle.counter hlast.counter⟩
  intro entry hmem
  rcases List.mem_append.mp hmem with hmem | hmem
  · obtain ⟨original, horiginal, hbecomes⟩ := hnew.exists_origin hmem
    rw [hbecomes.index]
    exact happended original horiginal
  · exact UInt32.le_trans hmiddle.counter (hlater entry hmem)

/-- An entry whose index had been handed out is one that was there. -/
lemma exists_origin (hlast : first.Survives last) {entry : Entry} (hmem : entry ∈ last.entries)
    (hindex : entry.index < first.nextIndex) :
    ∃ original ∈ first.entries, original.Becomes entry := by
  obtain ⟨survivors, later, hentries, hsurvivors, hlater⟩ := hlast.entries
  rw [hentries, List.mem_append] at hmem
  rcases hmem with hmem | hmem
  · exact hsurvivors.exists_origin hmem
  · exact absurd (hlater entry hmem) (UInt32.not_le.mpr hindex)

end Survives

/-! ## Steps -/

/-- The thread with what was found of an entry's status. -/
def noting (thread : Thread) (index : UInt32) : Option Status → Thread
  | none => thread
  | some status => thread.modify index fun entry => { entry with status := some status }

lemma nextIndex_noting (thread : Thread) (index : UInt32) (status? : Option Status) :
    (thread.noting index status?).nextIndex = thread.nextIndex := by
  cases status? <;> rfl

/-- The status of an entry that was just appended is recorded in that entry alone. -/
lemma entries_noting_append {thread : Thread}
    (hothers : ∀ entry ∈ thread.entries, entry.index ≠ thread.nextIndex)
    (update : Update) (status? : Option Status) :
    ((thread.append update).2.noting thread.nextIndex status?).entries =
      thread.entries ++ [⟨thread.nextIndex, update, status?, false⟩] := by
  cases status? with
  | none => rfl
  | some status =>
    show ((⟨_ ++ _, _⟩ : Thread).modify _ _).entries = _
    rw [entries_modify_append_of_ne _ _ _ hothers, modify_cons, if_pos rfl]

/-! ## Looking entries up -/

section

variable {thread : Thread} {index : UInt32} {entry : Entry}

lemma index_of_find? (hentry : thread.find? index = some entry) : entry.index = index := by
  simpa using List.find?_some hentry

lemma find?_cons (entry : Entry) (rest : List Entry) (next index : UInt32) :
    (⟨entry :: rest, next⟩ : Thread).find? index =
      if entry.index = index then some entry else (⟨rest, next⟩ : Thread).find? index := by
  by_cases hindex : entry.index = index <;> simp [find?, hindex]

/-- Under its index the first entry is found, with the change if it is the one that is changed. -/
lemma find?_modify (hentry : thread.find? index = some entry) {change : Entry → Entry}
    (hchange : ∀ entry, (change entry).index = entry.index) (target : UInt32) :
    (thread.modify target change).find? index =
      some (if target = index then change entry else entry) := by
  obtain ⟨entries, next⟩ := thread
  induction entries with
  | nil => cases hentry
  | cons first rest ih =>
    rw [modify_cons]
    rw [find?_cons] at hentry
    by_cases hfirst : first.index = index
    · obtain rfl : first = entry := by simpa [hfirst] using hentry
      by_cases htarget : target = index
      · rw [if_pos (hfirst.trans htarget.symm), if_pos htarget, find?_cons, hchange, if_pos hfirst]
      · have hother : first.index ≠ target := fun hsame => htarget (hsame.symm.trans hfirst)
        rw [if_neg hother, if_neg htarget, find?_cons, if_pos hfirst]
    · rw [if_neg hfirst] at hentry
      split
      next haddressed =>
        have htarget : target ≠ index := fun hsame => hfirst (haddressed.trans hsame)
        rw [find?_cons, hchange, if_neg hfirst, hentry, if_neg htarget]
      next =>
        rw [find?_cons, if_neg hfirst]
        exact ih hentry

/-- An entry is found as before when one with another index is taken out. -/
lemma find?_erase (hentry : thread.find? index = some entry) {target : UInt32}
    (htarget : target ≠ index) : (thread.erase target).find? index = some entry := by
  obtain ⟨entries, next⟩ := thread
  induction entries with
  | nil => cases hentry
  | cons first rest ih =>
    rw [erase_cons]
    rw [find?_cons] at hentry
    split
    next haddressed =>
      have hother : first.index ≠ index := fun hsame => htarget (haddressed.symm.trans hsame)
      rwa [if_neg hother] at hentry
    next =>
      rw [find?_cons]
      split at hentry
      next hfound => rw [if_pos hfound, hentry]
      next hother =>
        rw [if_neg hother]
        exact ih hentry

/-- An entry that is appended comes after those that are there. -/
lemma find?_append (hentry : thread.find? index = some entry) (update : Update) :
    (thread.append update).2.find? index = some entry := by
  have hfound : thread.entries.find? (·.index == index) = some entry := hentry
  rw [find?, entries_append, List.find?_append, hfound, Option.some_or]

lemma find?_noting (hentry : thread.find? index = some entry) (target : UInt32)
    (status? : Option Status) :
    ∃ late, (thread.noting target status?).find? index = some late ∧
      (late.status = entry.status ∨
        target = index ∧ ∃ status ∈ status?, late.status = some status) := by
  cases status? with
  | none => exact ⟨entry, hentry, .inl rfl⟩
  | some status =>
    have hfound : (thread.noting target (some status)).find? index =
        some (if target = index then { entry with status := some status } else entry) :=
      find?_modify hentry (fun _ => by rfl) target
    refine ⟨_, hfound, ?_⟩
    by_cases htarget : target = index
    · exact .inr ⟨htarget, status, rfl, by simp [htarget]⟩
    · exact .inl (by simp [htarget])

end

/-! ## Commands -/

/-- The counter does not run over while few entries are appended. -/
lemma toNat_succ {counter : UInt32} (hfew : counter.toNat + 1 < UInt32.size) :
    (counter + 1).toNat = counter.toNat + 1 := by
  rw [UInt32.toNat_add]
  exact Nat.mod_eq_of_lt hfew

/-- A command that appends nothing. -/
lemma evolves_of_touches (htouches : Touches addressed? before.entries after.entries)
    (hnext : after.nextIndex = before.nextIndex) : before.Evolves addressed? none after :=
  ⟨⟨after.entries, htouches, (List.append_nil _).symm⟩, by simp [hnext], by simp⟩

/-- A command that appends an entry, of which the status may have been looked up. -/
lemma evolves_of_append {middle : Thread} (hmiddle : middle.Ordered)
    (htouches : Touches addressed? before.entries middle.entries)
    (hnext : middle.nextIndex = before.nextIndex) (hfew : before.nextIndex.toNat + 1 < UInt32.size)
    (update : Update) (status? : Option Status) :
    before.Evolves addressed? (some ⟨before.nextIndex, update, status?, false⟩)
      ((middle.append update).2.noting before.nextIndex status?) := by
  have hentries := entries_noting_append hmiddle.index_ne_nextIndex update status?
  rw [← hnext]
  refine ⟨⟨middle.entries, htouches, hentries⟩, ?_, ?_⟩
  · rw [nextIndex_noting, nextIndex_append, hnext]
    exact toNat_succ hfew
  · rintro entry ⟨⟩
    exact ⟨hnext, rfl⟩

end Thread

end AnnotationReview
