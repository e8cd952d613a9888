import AnnotationReview.Proofs.Atomicity
import AnnotationReview.Proofs.Legality

/-!
# No submission is lost or recorded twice

A submission that the backend has saved is a `Deposit`, and the deposits of a run can be read off
its exchanges.  Each of them is appended to the thread as one entry with what was sent and what was
answered (`Deposit.RecordedAs`), nothing else is appended after a mount, and what was appended
stays until it is taken back (`Thread.Keeps`).  In return a deposit uses up the panel it was written
in, whereas a submission that comes to nothing leaves the panels alone and may be sent again.

None of this needs a bound on the number of entries.
-/

namespace AnnotationReview

/-! ## Entries that stay -/

/-- The entries that are left: all of the earlier ones in their order, except for some that were
taken back. -/
inductive Thread.Keeps (taken : List UInt32) : List Entry → List Entry → Prop where
  | nil : Keeps taken [] []
  | kept {early late : Entry} {before left : List Entry} (hbecomes : early.Becomes late)
      (hrest : Keeps taken before left) : Keeps taken (early :: before) (late :: left)
  | takenBack {early : Entry} {before left : List Entry} (htaken : early.index ∈ taken)
      (hrest : Keeps taken before left) : Keeps taken (early :: before) left

namespace Thread.Keeps

variable {taken more : List UInt32} {first middle last front back : List Entry}

lemma refl (taken : List UInt32) (entries : List Entry) : Keeps taken entries entries := by
  induction entries with
  | nil => exact .nil
  | cons entry rest ih => exact .kept (.refl entry) ih

lemma mono (hkeeps : Keeps taken first last) (hmore : taken ⊆ more) : Keeps more first last := by
  induction hkeeps with
  | nil => exact .nil
  | kept hbecomes _ ih => exact .kept hbecomes ih
  | takenBack htaken _ ih => exact .takenBack (hmore htaken) ih

lemma trans (hfirst : Keeps taken first middle) (hlast : Keeps taken middle last) :
    Keeps taken first last := by
  induction hfirst generalizing last with
  | nil => exact hlast
  | kept hbecomes _ ih =>
    cases hlast with
    | kept hlater hrest => exact .kept (hbecomes.trans hlater) (ih hrest)
    | takenBack htaken hrest => exact .takenBack (hbecomes.index ▸ htaken) (ih hrest)
  | takenBack htaken _ ih => exact .takenBack htaken (ih hlast)

lemma append {left right : List Entry} (hfront : Keeps taken front left)
    (hback : Keeps taken back right) : Keeps taken (front ++ back) (left ++ right) := by
  induction hfront with
  | nil => exact hback
  | kept hbecomes _ ih => exact .kept hbecomes ih
  | takenBack htaken _ ih => exact .takenBack htaken ih

/-- What is left of two lists in a row is left of the first and then of the second. -/
lemma exists_append (hkeeps : Keeps taken (front ++ back) last) :
    ∃ left right, last = left ++ right ∧ Keeps taken front left ∧ Keeps taken back right := by
  induction front generalizing last with
  | nil => exact ⟨[], last, rfl, .nil, hkeeps⟩
  | cons entry front ih =>
    cases hkeeps with
    | @kept _ late _ _ hbecomes hrest =>
      obtain ⟨left, right, rfl, hleft, hright⟩ := ih hrest
      exact ⟨late :: left, right, rfl, .kept hbecomes hleft, hright⟩
    | takenBack htaken hrest =>
      obtain ⟨left, right, rfl, hleft, hright⟩ := ih hrest
      exact ⟨left, right, rfl, .takenBack htaken hleft, hright⟩

/-- A change takes no entry out. -/
lemma of_modify {change : Entry → Entry} (hchange : ∀ entry : Entry, entry.Becomes (change entry))
    (thread : Thread) (index : UInt32) :
    Keeps taken thread.entries (thread.modify index change).entries := by
  obtain ⟨entries, next⟩ := thread
  induction entries with
  | nil => exact .nil
  | cons entry rest ih =>
    rw [modify_cons]
    split
    · exact .kept (hchange entry) (.refl taken rest)
    · exact .kept (.refl entry) ih

lemma of_noting (thread : Thread) (index : UInt32) (status? : Option Status) :
    Keeps taken thread.entries (thread.noting index status?).entries := by
  cases status? with
  | none => exact .refl taken thread.entries
  | some status => exact of_modify (fun entry => .setStatus entry _) thread index

lemma of_erase (thread : Thread) (index : UInt32) :
    Keeps [index] thread.entries (thread.erase index).entries := by
  obtain ⟨entries, next⟩ := thread
  induction entries with
  | nil => exact .nil
  | cons entry rest ih =>
    rw [erase_cons]
    split
    next haddressed => exact .takenBack (by simpa using haddressed) (.refl [index] rest)
    next => exact .kept (.refl entry) ih

end Thread.Keeps

/-- The entries have the given index and those after it, in this order. -/
def Thread.Numbered : UInt32 → List Entry → Prop
  | _, [] => True
  | index, entry :: rest => entry.index = index ∧ Numbered (index + 1) rest

/-! ## Panels that are closed -/

namespace PanelSet

variable {panels : PanelSet} {panel : Panel} {key : PanelKey}

lemma get?_close_of_none (hclosed : panels.get? key = none) (other : PanelKey) :
    (panels.close other).2.get? key = none := by
  rw [get?_eq_none_iff] at hclosed ⊢
  exact fun panel hmem => hclosed panel (mem_of_mem_close hmem)

lemma get?_insert_of_none (hclosed : panels.get? key = none) (hother : panel.key ≠ key) :
    (panels.insert panel).2.get? key = none := by
  rw [get?_eq_none_iff] at hclosed ⊢
  intro found hmem
  rw [toList_insert, List.mem_append, List.mem_singleton] at hmem
  rcases hmem with hmem | rfl
  · exact hclosed found (mem_of_mem_close hmem)
  · exact hother

lemma Orderly.get?_close (horderly : panels.Orderly) (key : PanelKey) :
    (panels.close key).2.get? key = none :=
  get?_eq_none_iff.mpr fun _ hmem => horderly.distinct.key_ne_of_mem_close hmem

end PanelSet

namespace Review

open Backend (Call Outcome Saved Submission)
open Backend.Dialogue (Exchange Path)

/-! ## Deposits -/

/-- What was sent with a call and what was answered, if the call is a submission that the backend
has saved. -/
def saved? : Exchange → Option (Submission × Saved)
  | ⟨⟨_, .submit submission⟩, .answered saved⟩ => some (submission, saved)
  | _ => none

/-- The call broke down: it was neither answered nor did it fail. -/
def BrokeDown (exchange : Exchange) : Prop :=
  ∃ message, exchange.outcome = .panicked message

@[simp] lemma saved?_submit (viewer : String) (submission : Submission) (saved : Saved) :
    saved? ⟨⟨viewer, .submit submission⟩, .answered saved⟩ = some (submission, saved) := rfl

@[simp] lemma saved?_reject (viewer updateId : String) (outcome : Outcome Unit) :
    saved? ⟨⟨viewer, .reject updateId⟩, outcome⟩ = none := rfl

/-- The panel that a command submits from, and whose update the submission becomes. -/
def Command.submits? : Command → Option (PanelKey × Origin)
  | .submitEdit _ _ => some (.text, .judger)
  | .submitRejection index _ => some (.entry index, .author)
  | _ => none

/-- The panel that a command opens. -/
def Command.opens? : Command → Option PanelKey
  | .openRejectionPanel index _ | .startRejection index => some (.entry index)
  | .openEditPanel _ _ => some .text
  | _ => none

/-- A submission that the backend has saved, with the command that has sent it. -/
structure Deposit where
  command : Command
  submission : Submission
  saved : Saved

/-- The entry is the update that was sent, under the name, the access code and the time that the
backend has answered: a judger's if it is an edit, and the author's if it is a reply. -/
structure Deposit.RecordedAs (deposit : Deposit) (entry : Entry) : Prop where
  id : entry.update.id = deposit.saved.updateId
  proposer : entry.update.proposer = deposit.saved.accessCode
  submittedAt : entry.update.submittedAt = deposit.saved.submittedAt
  text : entry.update.text = deposit.submission.text
  comment : entry.update.comment = deposit.submission.comment
  origin : ∃ key, deposit.command.submits? = some (key, entry.update.origin)

/-- Where no call breaks down, all calls are heard of. -/
lemma heard_of_kept {exchanges : List Exchange}
    (hkept : ∀ exchange ∈ exchanges, ¬BrokeDown exchange) : heard exchanges = exchanges := by
  induction exchanges with
  | nil => rfl
  | cons exchange exchanges ih =>
    obtain ⟨hfirst, hrest⟩ := List.forall_mem_cons.mp hkept
    obtain ⟨call, answer | error | message⟩ := exchange
    · rw [heard_answered, ih hrest]
    · exact congrArg (List.cons _) (ih hrest)
    · exact absurd ⟨message, rfl⟩ hfirst

namespace Event

/-- The submissions of an event that the backend has saved and that the command lived to hear of. -/
def deposits (event : Event) : List Deposit :=
  ((heard event.exchanges).filterMap saved?).map fun (submission, saved) =>
    ⟨event.command, submission, saved⟩

/-- The index that was taken back, if one was. -/
def takenBack (event : Event) : List UInt32 :=
  match event.command, event.result with
  | .retract index, .ok _ => [index]
  | _, _ => []

/-- A submission was saved that had been written in the panel at a place. -/
def Submits (key : PanelKey) (event : Event) : Prop :=
  event.deposits ≠ [] ∧ ∃ origin, event.command.submits? = some (key, origin)

/-- The panel at a place was opened. -/
def Opens (key : PanelKey) (event : Event) : Prop :=
  event.command.opens? = some key ∧ ∃ value, event.result = .ok value

/-- The command has failed or has left the text as it is. -/
def ComesToNothing (event : Event) : Prop :=
  event.result = .ok (.edit .unchanged) ∨ ∃ error, event.result = .error error

end Event

/-- All submissions of some events that the backend has saved and that were heard of, in their
order. -/
def deposits (events : List Event) : List Deposit :=
  events.flatMap Event.deposits

/-- All indices that were taken back in some events. -/
def takenBack (events : List Event) : List UInt32 :=
  events.flatMap Event.takenBack

/-- Where no call breaks down, no saved submission is left out. -/
lemma Event.deposits_of_kept {event : Event}
    (hkept : ∀ exchange ∈ event.exchanges, ¬BrokeDown exchange) :
    event.deposits.map (fun deposit => (deposit.submission, deposit.saved)) =
      event.exchanges.filterMap saved? := by
  rw [Event.deposits, heard_of_kept hkept, List.map_map]
  exact List.map_id _

lemma deposits_cons (event : Event) (events : List Event) :
    deposits (event :: events) = event.deposits ++ deposits events := rfl

/-- What a command does to the thread and to the panels for what the backend has saved: if that is
nothing, then nothing is appended; and if it is a submission, then the entry that records it comes
last and the panel it was written in is closed. -/
inductive Files (now : View) (event : Event) (next : View) : Prop where
  | nothing (hdeposits : event.deposits = [])
      (hentries : Thread.Keeps event.takenBack now.thread.entries next.thread.entries)
      (hcounter : next.thread.nextIndex = now.thread.nextIndex)
  | one {deposit : Deposit} {kept : List Entry} {entry : Entry} {key : PanelKey} {panel : Panel}
      (hdeposits : event.deposits = [deposit]) (hrecorded : deposit.RecordedAs entry)
      (hentries : next.thread.entries = kept ++ [entry])
      (hkept : Thread.Keeps [] now.thread.entries kept)
      (hindex : entry.index = now.thread.nextIndex) (hshown : entry.hidden = false)
      (hcounter : next.thread.nextIndex = now.thread.nextIndex + 1)
      (hsubmits : ∃ origin, event.command.submits? = some (key, origin))
      (hopened : now.panels.get? key = some panel)
      (hclosed : next.panels = (now.panels.close key).2)

section

variable {now next : View} {command : Command} {exchanges : List Exchange}
  {result : Except Error CommandResult}

/-! ## What is appended -/

/-- A call that fails saves nothing. -/
lemma deposits_of_failure {call : Call} {outcome : Outcome call.Answer} {error : Error}
    (hfailure : outcome.failure? = some error) :
    (⟨command, [⟨call, outcome⟩], result⟩ : Event).deposits = [] := by
  obtain ⟨viewer, query⟩ := call
  cases outcome with
  | answered answer => cases hfailure
  | failed failure => cases query <;> rfl
  | panicked message => rfl

/-- Closing an update saves nothing, whether or not it succeeds. -/
lemma deposits_reject (viewer updateId : String) (rejected : Except Backend.Error Unit)
    (exchanges : List Exchange) :
    (⟨command, ⟨⟨viewer, .reject updateId⟩, .ofExcept rejected⟩ :: exchanges, result⟩ :
      Event).deposits = (⟨command, exchanges, result⟩ : Event).deposits := by
  cases rejected <;> rfl

/-- A rejection whose reply is not saved saves nothing. -/
lemma deposits_of_unsaved_reply (viewer updateId : String) (submission : Submission)
    (rejected : Except Backend.Error Unit) {outcome : Outcome Saved} {error : Error}
    (hfailure : outcome.failure? = some error) :
    (⟨command, [⟨⟨viewer, .reject updateId⟩, .ofExcept rejected⟩,
      ⟨⟨viewer, .submit submission⟩, outcome⟩], result⟩ : Event).deposits = [] :=
  (deposits_reject ..).trans (deposits_of_failure hfailure)

/-- Reading a status saves nothing. -/
lemma LookUp.filterMap_saved? {base after : View} {index : UInt32} {entry : Entry}
    {lookUps : List Exchange} {ending : Ending (Option Status)}
    (hlookUp : LookUp base index entry lookUps ending after) :
    (heard lookUps).filterMap saved? = [] := by
  obtain ⟨outcome, rfl⟩ := hlookUp.exists_exchanges
  cases outcome <;> rfl

/-- The thread after an update was appended and its status noted. -/
lemma exists_entries_noting_append (thread : Thread) (update : Update) (status? : Option Status) :
    ∃ kept status, ((thread.append update).2.noting thread.nextIndex status?).entries =
        kept ++ [⟨thread.nextIndex, update, status, false⟩] ∧
      Thread.Keeps [] thread.entries kept ∧
      ((thread.append update).2.noting thread.nextIndex status?).nextIndex =
        thread.nextIndex + 1 := by
  have hcounter := Thread.nextIndex_noting (thread.append update).2 thread.nextIndex status?
  cases status? with
  | none => exact ⟨thread.entries, none, rfl, .refl [] thread.entries, rfl⟩
  | some status =>
    by_cases hmem : ∃ entry ∈ thread.entries, entry.index = thread.nextIndex
    · -- the counter has started over, and an entry further ahead has the index already
      obtain ⟨entry, hmem, hindex⟩ := hmem
      have hentries := Thread.entries_modify_append_of_mem
        [⟨thread.nextIndex, update, none, false⟩] (thread.nextIndex + 1)
        (fun entry => { entry with status := some status }) hmem
      rw [hindex] at hentries
      exact ⟨_, none, hentries, .of_noting ⟨thread.entries, thread.nextIndex + 1⟩ _ (some status),
        hcounter⟩
    · refine ⟨thread.entries, some status, ?_, .refl [] thread.entries, hcounter⟩
      have hothers : ∀ entry ∈ thread.entries, entry.index ≠ thread.nextIndex :=
        fun entry hentry hindex => hmem ⟨entry, hentry, hindex⟩
      exact Thread.entries_noting_append hothers update (some status)

/-- Every course files what was saved in it. -/
lemma files_of_course (hcourse : Course now command exchanges result next) :
    Files now ⟨command, exchanges, result⟩ next := by
  cases hcourse with
  | refreshed hget hlookUp =>
    obtain ⟨status?, notice, hsettled, -⟩ := hlookUp.exists_settled
    rw [hsettled]
    refine .nothing ?_ (.of_noting now.thread _ status?) (Thread.nextIndex_noting _ _ status?)
    simp [Event.deposits, hlookUp.filterMap_saved?]
  | editFailed hedit hfailure =>
    exact .nothing (deposits_of_failure hfailure) (.refl _ _) rfl
  | @editSaved edited comment submission saved _ _ _ _ hedit hget hlookUp =>
    obtain ⟨status?, notice, hsettled, -⟩ := hlookUp.exists_settled
    obtain ⟨panel, hpanel, -⟩ := View.proposedEdit_eq_ok hedit
    obtain ⟨kept, status, hentries, hkept, hcounter⟩ :=
      exists_entries_noting_append now.thread (.ofSaved saved submission .judger) status?
    rw [hsettled]
    refine .one (?_ : _ = [⟨.submitEdit edited comment, submission, saved⟩]) ?_ hentries hkept rfl
      rfl hcounter ⟨.judger, rfl⟩ hpanel rfl
    · simp [Event.deposits, hlookUp.filterMap_saved?]
    · exact ⟨rfl, rfl, rfl, rfl, rfl, .text, rfl⟩
  | rejectionBrokeDown => exact .nothing rfl (.refl _ _) rfl
  | rejectionFailed hreply rejected hfailure =>
    exact .nothing (deposits_of_unsaved_reply _ _ _ rejected hfailure) (.refl _ _) rfl
  | @rejectionSaved index comment _ submission saved _ _ _ _ hreply rejected hget hlookUp =>
    obtain ⟨status?, notice, hsettled, -⟩ := hlookUp.exists_settled
    obtain ⟨panel, _, hpanel, -⟩ := View.rejectionReply_eq_ok hreply
    obtain ⟨kept, status, hentries, hkept, hcounter⟩ := exists_entries_noting_append
      (now.thread.modify index fun entry => { entry with status := some .rejected })
      (.ofSaved saved submission .author) status?
    have hrejected : Thread.Keeps [] now.thread.entries (now.thread.modify index fun entry =>
        { entry with status := some .rejected }).entries :=
      .of_modify (fun entry => .setStatus entry _) now.thread index
    rw [hsettled]
    simp only [View.thread_reportingUnrejected]
    refine .one (?_ : _ = [⟨.submitRejection index comment, submission, saved⟩]) ?_ hentries
      (hrejected.trans hkept) rfl rfl hcounter ⟨.author, rfl⟩ hpanel ?_
    · simp [Event.deposits, List.filterMap_cons, hlookUp.filterMap_saved?]
    · exact ⟨rfl, rfl, rfl, rfl, rfl, _, rfl⟩
    · cases rejected <;> rfl
  | acceptFailed hentry hfailure =>
    exact .nothing (deposits_of_failure hfailure) (.refl _ _) rfl
  | accepted =>
    refine .nothing rfl (.of_modify (fun entry => ?_) now.thread _) rfl
    exact ⟨rfl, rfl, fun _ => rfl⟩
  | retractFailed hentry hfailure =>
    exact .nothing (deposits_of_failure hfailure) (.refl _ _) rfl
  | retracted => exact .nothing rfl (.of_erase now.thread _) rfl
  | _ => exact .nothing rfl (.refl _ _) rfl

/-- What a run appends: the thread at the end holds what is left of the first entries and then what
is left of the entries that were appended since, one for each deposit. -/
lemma exists_appended_of_run {first last : View} {events : List Event}
    (hrun : Run first events last) :
    ∃ loaded submitted appended, last.thread.entries = loaded ++ submitted ∧
      Thread.Keeps (takenBack events) first.thread.entries loaded ∧
      Thread.Keeps (takenBack events) appended submitted ∧
      Thread.Numbered first.thread.nextIndex appended ∧
      List.Forall₂ Deposit.RecordedAs (deposits events) appended := by
  induction hrun with
  | nil view =>
    exact ⟨view.thread.entries, [], [], (List.append_nil _).symm, .refl _ _, .nil, trivial, .nil⟩
  | @cons first next last command exchanges result events head tail ih =>
    obtain ⟨left, later, appended, hlast, hleft, hlater, hnumbered, hrecorded⟩ := ih
    have htail : takenBack events ⊆ takenBack (⟨command, exchanges, result⟩ :: events) :=
      List.subset_append_right _ _
    cases files_of_course (course_of_path head) with
    | nothing hdeposits hentries hcounter =>
      have hkept := hentries.mono (List.subset_append_left _ (takenBack events))
      refine ⟨left, later, appended, hlast, hkept.trans (hleft.mono htail), hlater.mono htail,
        hcounter ▸ hnumbered, ?_⟩
      rwa [deposits_cons, hdeposits]
    | @one deposit kept entry key panel hdeposits hentry hentries hkept hindex _ hcounter =>
      -- the rest of the run leaves something of the first entries and then of the new one
      rw [hentries] at hleft
      obtain ⟨loaded, submitted, rfl, hloaded, hsubmitted⟩ := hleft.exists_append
      refine ⟨loaded, submitted ++ later, entry :: appended, ?_, ?_, ?_, ?_, ?_⟩
      · rw [hlast, List.append_assoc]
      · exact (hkept.mono (List.nil_subset _)).trans (hloaded.mono htail)
      · exact (hsubmitted.append hlater).mono htail
      · exact ⟨hindex, hcounter ▸ hnumbered⟩
      · rw [deposits_cons, hdeposits]
        exact .cons hentry hrecorded

/-! ## Panels between submissions -/

lemma LookUp.panels_settled {base after : View} {index : UInt32} {entry : Entry}
    {lookUps : List Exchange} {ending : Ending (Option Status)}
    (hlookUp : LookUp base index entry lookUps ending after) :
    (ending.settled after).panels = base.panels := by
  obtain ⟨status?, notice, hsettled, -⟩ := hlookUp.exists_settled
  rw [hsettled]

/-- What a course does to the panels: they stay, one of them is closed, or one is opened. -/
lemma panels_of_course (hcourse : Course now command exchanges result next) :
    next.panels = now.panels ∨ (∃ key, next.panels = (now.panels.close key).2) ∨
      ∃ panel, next.panels = (now.panels.insert panel).2 ∧
        (⟨command, exchanges, result⟩ : Event).Opens panel.key := by
  cases hcourse with
  | rejectionOpened => exact .inr (.inr ⟨_, rfl, rfl, _, rfl⟩)
  | rejectionStarted => exact .inr (.inr ⟨_, rfl, rfl, _, rfl⟩)
  | editOpened => exact .inr (.inr ⟨_, rfl, rfl, _, rfl⟩)
  | rejectionCancelled => exact .inr (.inl ⟨_, rfl⟩)
  | editCancelled => exact .inr (.inl ⟨_, rfl⟩)
  | accepted => exact .inr (.inl ⟨_, rfl⟩)
  | retracted => exact .inr (.inl ⟨_, rfl⟩)
  | refreshed hget hlookUp => exact .inl hlookUp.panels_settled
  | editSaved hedit hget hlookUp => exact .inr (.inl ⟨.text, hlookUp.panels_settled⟩)
  | @rejectionSaved index _ _ _ _ _ _ _ _ hreply rejected hget hlookUp =>
    refine .inr (.inl ⟨.entry index, hlookUp.panels_settled.trans ?_⟩)
    cases rejected <;> rfl
  | _ => exact .inl rfl

/-- Where no panel is open none is open after a run, unless one was opened there. -/
lemma exists_opens_of_run {first last : View} {events : List Event} {key : PanelKey} {panel : Panel}
    (hrun : Run first events last) (hclosed : first.panels.get? key = none)
    (hopen : last.panels.get? key = some panel) : ∃ event ∈ events, event.Opens key := by
  induction hrun with
  | nil => rw [hclosed] at hopen; cases hopen
  | @cons first next last command exchanges result events head tail ih =>
    by_cases hopens : (⟨command, exchanges, result⟩ : Event).Opens key
    · exact ⟨_, List.mem_cons_self, hopens⟩
    · have hnext : next.panels.get? key = none := by
        obtain hsame | ⟨other, hother⟩ | ⟨inserted, hinserted, hother⟩ :=
          panels_of_course (course_of_path head)
        · rw [hsame, hclosed]
        · rw [hother, PanelSet.get?_close_of_none hclosed]
        · rw [hinserted, PanelSet.get?_insert_of_none hclosed]
          rintro rfl
          exact hopens hother
      obtain ⟨event, hmem, hevent⟩ := ih hnext hopen
      exact ⟨event, List.mem_cons_of_mem _ hmem, hevent⟩

/-- A saved submission finds its panel open and leaves it closed. -/
lemma Files.panels {event : Event} {key : PanelKey} (hfiles : Files now event next)
    (hsubmits : event.Submits key) :
    (∃ panel, now.panels.get? key = some panel) ∧ next.panels = (now.panels.close key).2 := by
  obtain ⟨hsome, origin, hkey⟩ := hsubmits
  cases hfiles with
  | nothing hdeposits => exact absurd hdeposits hsome
  | one _ _ _ _ _ _ _ hsubmits hopened hclosed =>
    obtain ⟨other, hother⟩ := hsubmits
    rw [hkey] at hother
    cases hother
    exact ⟨⟨_, hopened⟩, hclosed⟩

/-- Between two saved submissions from one panel it was opened again. -/
lemma exists_opens_between {annotationId viewer : String} {later : Event}
    {between rest : List Event} {last : View} {key : PanelKey}
    (hcourse : Course now command exchanges result next)
    (hnow : now.Consistent annotationId viewer)
    (hrun : Run next (between ++ later :: rest) last)
    (hsubmits : (⟨command, exchanges, result⟩ : Event).Submits key) (hlater : later.Submits key) :
    ∃ opening ∈ between, opening.Opens key := by
  obtain ⟨-, hclosed⟩ := (files_of_course hcourse).panels hsubmits
  obtain ⟨late, hbetween, hrun⟩ := Run.append_iff.mp hrun
  cases hrun with
  | cons head tail =>
    obtain ⟨⟨panel, hopen⟩, -⟩ := (files_of_course (course_of_path head)).panels hlater
    refine exists_opens_of_run hbetween ?_ hopen
    rw [hclosed]
    exact hnow.panels.get?_close key

/-! ## Trying again -/

/-- The look-up of a status does not depend on the notice. -/
lemma LookUp.exists_of_notice {base after : View} {index : UInt32} {entry : Entry}
    {lookUps : List Exchange} {ending : Ending (Option Status)}
    (hlookUp : LookUp base index entry lookUps ending after) (notice : Option Notice) :
    ∃ other left, LookUp { base with notice } index entry lookUps ending other ∧
      ending.settled other = { ending.settled after with notice := left } := by
  cases hlookUp with
  | failed error => exact ⟨_, _, .failed error, rfl⟩
  | brokeDown message => exact ⟨_, _, .brokeDown message, rfl⟩
  | unknown hword => exact ⟨_, _, .unknown hword, rfl⟩
  | recorded status => exact ⟨_, _, .recorded status, rfl⟩

/-- Whatever the notice is, a submission goes on in the same way. -/
lemma exists_course_of_notice {panel : PanelKey × Origin}
    (hcourse : Course now command exchanges result next)
    (hsubmits : command.submits? = some panel) (notice : Option Notice) :
    ∃ other left, Course { now with notice } command exchanges result other ∧
      other = { next with notice := left } := by
  cases hcourse with
  | @refused _ error hcheck =>
    have hsame : command.check { now with notice } = .error error := by
      cases command with
      | submitEdit => exact hcheck
      | submitRejection => exact hcheck
      | _ => cases hsubmits
    exact ⟨_, _, .refused hsame, rfl⟩
  | editUnchanged hedit => exact ⟨_, _, .editUnchanged hedit, rfl⟩
  | @editFailed edited comment submission hedit _ _ hfailure =>
    have hedit : View.proposedEdit { now with notice } edited comment =
      .ok (some submission) := hedit
    exact ⟨_, _, .editFailed hedit hfailure, rfl⟩
  | editSaved hedit hget hlookUp =>
    obtain ⟨other, left, hother, hsettled⟩ := hlookUp.exists_of_notice notice
    exact ⟨_, left, .editSaved hedit hget hother, hsettled⟩
  | @rejectionBrokeDown index comment target submission hreply message _ hsame =>
    have hreply : View.rejectionReply { now with notice } index comment =
      .ok (target, submission) := hreply
    exact ⟨_, _, .rejectionBrokeDown hreply message hsame, rfl⟩
  | @rejectionFailed index comment target submission hreply rejected _ _ hfailure =>
    have hreply : View.rejectionReply { now with notice } index comment =
      .ok (target, submission) := hreply
    exact ⟨_, _, .rejectionFailed hreply rejected hfailure, rfl⟩
  | @rejectionSaved index comment target submission _ _ _ _ _ hreply rejected hget hlookUp =>
    have hreply : View.rejectionReply { now with notice } index comment =
      .ok (target, submission) := hreply
    cases rejected with
    | ok =>
      obtain ⟨other, left, hother, hsettled⟩ := hlookUp.exists_of_notice notice
      exact ⟨_, left, .rejectionSaved hreply (.ok ()) hget hother, hsettled⟩
    | error error => exact ⟨_, _, .rejectionSaved hreply (.error error) hget hlookUp, rfl⟩
  | _ => cases hsubmits

/-- Once a submission is saved, only a look-up that breaks down makes the command fail. -/
lemma LookUp.not_comesToNothing {base after : View} {index : UInt32} {entry : Entry}
    {lookUps : List Exchange} {ending : Ending (Option Status)} {value : CommandResult}
    (hlookUp : LookUp base index entry lookUps ending after) (hvalue : value ≠ .edit .unchanged)
    (hanswered : ∀ exchange ∈ lookUps, ¬BrokeDown exchange) :
    ¬(⟨command, exchanges, (ending.attempted value).result⟩ : Event).ComesToNothing := by
  rintro (hunchanged | ⟨error, herror⟩)
  · cases ending with
    | returned => exact hvalue (Except.ok.inj hunchanged)
    | failed => exact hvalue (Except.ok.inj hunchanged)
    | aborted => cases hunchanged
  · obtain ⟨message, rfl⟩ := hlookUp.exchanges_of_attempted_error herror
    exact hanswered _ List.mem_cons_self ⟨message, rfl⟩

/-- A submission that comes to nothing leaves a notice at most, unless a call of it broke down. -/
lemma exists_notice_of_nothing {panel : PanelKey × Origin}
    (hcourse : Course now command exchanges result next)
    (hsubmits : command.submits? = some panel)
    (hanswered : ∀ exchange ∈ exchanges, ¬BrokeDown exchange)
    (hnothing : (⟨command, exchanges, result⟩ : Event).ComesToNothing) :
    (⟨command, exchanges, result⟩ : Event).deposits = [] ∧
      ∃ notice, next = { now with notice } := by
  cases hcourse with
  | refused => exact ⟨rfl, _, rfl⟩
  | editUnchanged => exact ⟨rfl, now.notice, rfl⟩
  | editFailed hedit hfailure => exact ⟨deposits_of_failure hfailure, _, rfl⟩
  | rejectionBrokeDown => exact ⟨rfl, _, rfl⟩
  | rejectionFailed hreply rejected hfailure =>
    exact ⟨deposits_of_unsaved_reply _ _ _ rejected hfailure, _, rfl⟩
  | editSaved hedit hget hlookUp =>
    refine absurd hnothing (hlookUp.not_comesToNothing (by simp) fun exchange hmem => ?_)
    exact hanswered exchange (List.mem_cons_of_mem _ hmem)
  | rejectionSaved hreply rejected hget hlookUp =>
    refine absurd hnothing (hlookUp.not_comesToNothing (by simp) fun exchange hmem => ?_)
    exact hanswered exchange (List.mem_cons_of_mem _ (List.mem_cons_of_mem _ hmem))
  | _ => cases hsubmits

end

/-- Both views let the command go on in the same ways. -/
def Command.SameOn (command : Command) (first second : View) : Prop :=
  ∀ exchanges result, (∃ next, Path (command.operation first) exchanges (result, next)) ↔
    ∃ next, Path (command.operation second) exchanges (result, next)

lemma Command.sameOn_of_notice {command : Command} {panel : PanelKey × Origin}
    (hsubmits : command.submits? = some panel) (now : View) (notice : Option Notice) :
    command.SameOn { now with notice } now := by
  intro exchanges result
  constructor
  · rintro ⟨next, hpath⟩
    obtain ⟨other, left, hother, -⟩ :=
      exists_course_of_notice (course_of_path hpath) hsubmits now.notice
    exact ⟨other, path_of_course hother⟩
  · rintro ⟨next, hpath⟩
    obtain ⟨other, left, hother, -⟩ :=
      exists_course_of_notice (course_of_path hpath) hsubmits notice
    exact ⟨other, path_of_course hother⟩

/-- **No submission is lost or recorded twice.**  Take a mount, any commands after it, one more
command and any commands after that, whatever the backend answers.  The thread at the end holds what
is left of the mounted entries and then what is left of the entries appended since; those record the
saved submissions of the whole run one by one and in their order, and only what was taken back is
missing.  These are all submissions that were saved, but for one that was not heard of because a
call broke down.  The one command appends the entry that records what it has saved, if anything, and
in return closes the panel that the submission was written in; between two saved submissions from
one panel it was opened again.  A submission that comes to nothing leaves the thread and the panels
alone, and the same command may go on as before, unless a call broke down. -/
theorem submissions_recorded_once {annotationId viewer text : String}
    {loading exchanges : List Exchange} {mounted now next last : View} {past future : List Event}
    {command : Command} {result : Except Error CommandResult}
    (hmount : Mounts annotationId viewer text loading mounted) (hpast : Run mounted past now)
    (hstep : Path (command.operation now) exchanges (result, next))
    (hfuture : Run next future last) :
    (∃ loaded submitted appended, last.thread.entries = loaded ++ submitted ∧
      Thread.Keeps (takenBack (past ++ ⟨command, exchanges, result⟩ :: future))
        mounted.thread.entries loaded ∧
      Thread.Keeps (takenBack (past ++ ⟨command, exchanges, result⟩ :: future))
        appended submitted ∧
      Thread.Numbered mounted.thread.nextIndex appended ∧
      List.Forall₂ Deposit.RecordedAs (deposits (past ++ ⟨command, exchanges, result⟩ :: future))
        appended) ∧
    (∀ event ∈ past ++ ⟨command, exchanges, result⟩ :: future,
      (∀ exchange ∈ event.exchanges, ¬BrokeDown exchange) →
        event.deposits.map (fun deposit => (deposit.submission, deposit.saved)) =
          event.exchanges.filterMap saved?) ∧
    Files now ⟨command, exchanges, result⟩ next ∧
    (∀ key, (⟨command, exchanges, result⟩ : Event).Submits key →
      next.panels.get? key = none ∧
      ∀ between later rest, future = between ++ later :: rest → later.Submits key →
        ∃ opening ∈ between, opening.Opens key) ∧
    (∀ panel, command.submits? = some panel → (∀ exchange ∈ exchanges, ¬BrokeDown exchange) →
      (⟨command, exchanges, result⟩ : Event).ComesToNothing →
        (⟨command, exchanges, result⟩ : Event).deposits = [] ∧
        next.thread = now.thread ∧ next.panels = now.panels ∧ command.SameOn next now) := by
  have hcourse := course_of_path hstep
  have hfiles := files_of_course hcourse
  have hnow : now.Consistent annotationId viewer :=
    hpast.inv consistent_of_course (mountedAs_of_mounts hmount).consistent
  refine ⟨?_, fun _ _ => Event.deposits_of_kept, hfiles, ?_, ?_⟩
  · exact exists_appended_of_run (Run.append_iff.mpr ⟨now, hpast, .cons hstep hfuture⟩)
  · intro key hsubmits
    obtain ⟨-, hclosed⟩ := hfiles.panels hsubmits
    refine ⟨hclosed ▸ hnow.panels.get?_close key, ?_⟩
    rintro between later rest rfl hlater
    exact exists_opens_between hcourse hnow hfuture hsubmits hlater
  · intro panel hsubmits hanswered hnothing
    obtain ⟨hdeposits, notice, rfl⟩ :=
      exists_notice_of_nothing hcourse hsubmits hanswered hnothing
    exact ⟨hdeposits, rfl, rfl, Command.sameOn_of_notice hsubmits now notice⟩

/-- The edit is taken back, written again and proposed for a second time. -/
def resubmission : List Event :=
  [⟨.retract 0, [⟨⟨"author", .retract "U1"⟩, .answered ()⟩], .ok .done⟩,
    ⟨.openEditPanel .naturalLanguage "Why?", [], .ok .done⟩,
    ⟨.submitEdit "list all files" "hidden ones too",
      [⟨⟨"author", .submit ⟨"A1", "list all files", "hidden ones too", none⟩⟩,
        .answered ⟨"U2", "author", "t2"⟩⟩, ⟨⟨"author", .statusOf "U2"⟩, .failed .undecodable⟩],
      .ok (.edit (.submitted 1))⟩]

lemma exists_run_resubmission : ∃ last, Run proposed resubmission last := by
  have hedit : View.proposedEdit { editing with thread := ⟨[], 1⟩ } "list all files"
      "hidden ones too" = .ok (some ⟨"A1", "list all files", "hidden ones too", none⟩) := rfl
  have hopened : Path ((Command.openEditPanel .naturalLanguage "Why?").operation withdrawn) []
      (.ok .done, { editing with thread := ⟨[], 1⟩ }) := path_of_course (.editOpened rfl)
  exact ⟨_, .cons path_withdrawn (.cons hopened
    (.cons (path_of_course (.editSaved hedit rfl (.failed .undecodable))) (.nil _)))⟩

/-- Both submissions are recorded, the first of them is missing at the end, and the panel was opened
again in between. -/
theorem submissions_recorded_once_resubmission : ∃ last submitted appended,
    Run proposed resubmission last ∧ last.thread.entries = submitted ∧
    Thread.Keeps [0] appended submitted ∧ Thread.Numbered 0 appended ∧
    List.Forall₂ Deposit.RecordedAs
      [⟨.submitEdit "list all files" "hidden ones too",
          ⟨"A1", "list all files", "hidden ones too", none⟩, ⟨"U1", "author", "t1"⟩⟩,
        ⟨.submitEdit "list all files" "hidden ones too",
          ⟨"A1", "list all files", "hidden ones too", none⟩, ⟨"U2", "author", "t2"⟩⟩] appended ∧
    ∃ opening ∈ resubmission.take 2, opening.Opens .text := by
  have hmount := mounts_without_updates "A1" "author" "list files"
  obtain ⟨last, hfuture⟩ := exists_run_resubmission
  obtain ⟨⟨loaded, submitted, appended, hentries, hloaded, hkept, hnumbered, hrecorded⟩, -, -,
    hpanels, -⟩ :=
    submissions_recorded_once hmount (.cons path_editing (.nil editing)) path_proposed hfuture
  obtain ⟨-, hopens⟩ := hpanels .text ⟨by simp [Event.deposits], .judger, rfl⟩
  cases hloaded
  refine ⟨last, submitted, appended, hfuture, hentries, hkept, hnumbered, hrecorded, ?_⟩
  exact hopens _ _ [] rfl ⟨by simp [Event.deposits], .judger, rfl⟩

end Review

end AnnotationReview
