import AnnotationReview.Proofs.Confirmation

/-!
# What a status refresh leaves

A refresh asks the backend for the status of one entry and tells the caller what was found.  If the
backend's word is a status, the entry has it afterwards.  If it is not, the caller is told that
nothing is known, and the entry keeps the status it had: an entry that was open before is still
open and still offers its controls.  So what is told and what is recorded agree just where something
was found or nothing had been recorded before (`refreshed_as_reported_iff`).
-/

namespace AnnotationReview

open Backend.Dialogue (Exchange Path)

/-! ## Entries without controls -/

namespace Entry

/-- The entry offers nothing, whoever looks at it and whether or not its panel is open. -/
def IsInert (entry : Entry) : Prop :=
  ∀ viewer panelOpen, entry.controlsFor viewer panelOpen = .inert

variable {entry : Entry}

lemma isInert_iff : entry.IsInert ↔ entry.isLive = false := by
  constructor
  · intro hinert
    by_contra hlive
    have hoffered := hinert entry.update.proposer false
    rw [controlsFor, if_pos (by simpa using hlive), proposedBy, beq_self_eq_true, if_pos rfl]
      at hoffered
    cases hoffered
  · intro hlive viewer panelOpen
    rw [controlsFor, hlive, if_neg Bool.false_ne_true]

/-- An entry has the status that was found unless none was found and it had one. -/
lemma status_noting_eq_iff {status? : Option Status} :
    (entry.noting status?).status = status? ↔ status? ≠ none ∨ entry.status = none := by
  cases status? with
  | none => simp [noting]
  | some status => simp [noting]

end Entry

/-- The view with what was found of the status of an entry. -/
def View.noting (view : View) (index : UInt32) (status? : Option Status) : View :=
  { view with thread := view.thread.noting index status? }

lemma Thread.get_noting {thread : Thread} {index : UInt32} {entry : Entry}
    (hget : thread.get index = .ok entry) (status? : Option Status) :
    (thread.noting index status?).get index = .ok (entry.noting status?) := by
  cases status? with
  | none => exact hget
  | some status =>
    have hfound : (thread.noting index (some status)).find? index =
        some (if index = index then { entry with status := some status } else entry) :=
      find?_modify (get_eq_ok_iff.mp hget) (fun _ => by rfl) index
    rw [if_pos rfl] at hfound
    exact get_eq_ok_iff.mpr hfound

namespace Review

variable {now next : View} {index : UInt32} {entry : Entry} {exchanges : List Exchange}
  {reported : Option Status}

/-! ## Refreshing -/

/-- A refresh succeeds where the look-up is answered, and notes what the word stands for. -/
lemma path_refreshStatus_iff (hget : now.thread.get index = .ok entry) :
    Path (refreshStatus index now) exchanges (.ok reported, next) ↔
      ∃ word, exchanges = [⟨⟨now.viewer, .statusOf entry.update.id⟩, .answered word⟩] ∧
        reported = Status.ofName? word ∧ next = now.noting index reported := by
  rw [refreshStatus, path_settle_iff]
  constructor
  · rintro ⟨ending, after, hpath, hresult, rfl⟩
    have hlookUp := (lookUp_iff hget).mp hpath
    cases hlookUp with
    | failed error => cases hresult
    | brokeDown message => cases hresult
    | @unknown word hword =>
      cases hresult
      exact ⟨word, rfl, hword.symm, rfl⟩
    | recorded status =>
      cases hresult
      exact ⟨status.name, rfl, (Status.ofName?_name status).symm, rfl⟩
  · rintro ⟨word, rfl, rfl, rfl⟩
    cases hword : Status.ofName? word with
    | none => exact ⟨_, _, (lookUp_iff hget).mpr (.unknown hword), rfl, rfl⟩
    | some status =>
      obtain rfl := Status.ofName?_eq_some_iff.mp hword
      exact ⟨_, _, (lookUp_iff hget).mpr (.recorded status), rfl, rfl⟩

/-- **What is told is recorded, or nothing is.**  A refresh succeeds for every word the backend may
answer with, and tells the status that the word stands for, if it stands for one.  The entry then
has what was told just where a status was told or none was known before: an unknown word leaves the
entry as it is, and without controls only if it could not be acted on before.  Nothing else in the
view has changed. -/
theorem refreshed_as_reported_iff (hget : now.thread.get index = .ok entry) :
    (∀ word, Path (refreshStatus index now)
        [⟨⟨now.viewer, .statusOf entry.update.id⟩, .answered word⟩]
        (.ok (Status.ofName? word), now.noting index (Status.ofName? word))) ∧
      ∀ exchanges reported next, Path (refreshStatus index now) exchanges (.ok reported, next) →
        (∃ word, exchanges = [⟨⟨now.viewer, .statusOf entry.update.id⟩, .answered word⟩] ∧
          reported = Status.ofName? word) ∧
        next = now.noting index reported ∧
        ∃ late, next.thread.get index = .ok late ∧ late = entry.noting reported ∧
          (late.status = reported ↔ reported ≠ none ∨ entry.status = none) ∧
          (reported = none → (late.IsInert ↔ entry.isLive = false)) := by
  constructor
  · intro word
    exact (path_refreshStatus_iff hget).mpr ⟨word, rfl, rfl, rfl⟩
  · intro exchanges reported next hpath
    obtain ⟨word, rfl, hreported, rfl⟩ := (path_refreshStatus_iff hget).mp hpath
    refine ⟨⟨word, rfl, hreported⟩, rfl, entry.noting reported, Thread.get_noting hget reported,
      rfl, Entry.status_noting_eq_iff, ?_⟩
    rintro rfl
    exact Entry.isInert_iff

/-- The judge's update has been closed by somebody else in the meantime. -/
theorem refreshed_as_reported_closed : ∃ next late,
    Path (refreshStatus 0 reviewing)
      [⟨⟨"author", .statusOf "U1"⟩, .answered "rejected"⟩] (.ok (some .rejected), next) ∧
    next.thread.get 0 = .ok late ∧ late.status = some .rejected := by
  have hget : reviewing.thread.get 0 = .ok ⟨0, ⟨"U1", "judge", "t1", "list all files",
      "lists hidden files too", .judger⟩, some .opened, false⟩ := rfl
  obtain ⟨hwords, hrefreshed⟩ := refreshed_as_reported_iff hget
  obtain ⟨-, hnext, late, hlate, -, hstatus, -⟩ := hrefreshed _ _ _ (hwords "rejected")
  exact ⟨_, late, hwords "rejected", hlate, hstatus.mpr (.inl (by decide))⟩

/-- An open update is reported with a word that is no status: the caller is told that nothing is
known, and the update is still open and can still be rejected. -/
theorem open_entry_outlives_unknown_word : Reachable reviewing ∧ ∃ next late,
    Path (refreshStatus 0 reviewing)
      [⟨⟨"author", .statusOf "U1"⟩, .answered "archived"⟩] (.ok none, next) ∧
    next.thread.get 0 = .ok late ∧ late.status = some .opened ∧ ¬late.IsInert := by
  refine ⟨⟨_, _, _, _, _, [], mounts_reviewing, .nil reviewing⟩, reviewing, _, ?_, rfl, rfl, ?_⟩
  · exact (path_refreshStatus_iff rfl).mpr ⟨"archived", rfl, rfl, rfl⟩
  · rw [Entry.isInert_iff]
    decide

end Review

end AnnotationReview
