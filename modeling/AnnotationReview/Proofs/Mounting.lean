import AnnotationReview.Proofs.Arrivals
import AnnotationReview.Proofs.Confirmation
import AnnotationReview.Proofs.Registry
import Mathlib.Data.List.Nodup

/-!
# What a mount makes of the backend's replies

While an annotation is mounted the backend replies with a list of updates, or with a failure, and
then with the result of one look-up for each update of the list (`LoadReplies`).  The view after the
mount is told by these replies alone (`LoadReplies.view`), and what it shows of them is put down in
`LoadReplies.Shows`.  Neither the view that was there before nor the order in which the look-ups
come back has a part in it (`mounted_view_told_by_replies`).

Every entry is shown under its own place in the list, also where updates have the same name; this
needs no more than that the places can be told apart as indices.
-/

namespace AnnotationReview

open Backend (Dialogue Listed)
open Backend.Dialogue (Exchange Path path_bind_iff)

/-- What does not depend on places is the same without them. -/
lemma map_zipIdx {α β : Type} (items : List α) (f : α → β) :
    (items.zipIdx.map fun item => f item.1) = items.map f := by
  conv_rhs => rw [← List.zipIdx_map_fst 0 items, List.map_map]
  rfl

namespace Review

/-! ## Results of look-ups -/

/-- The status that the result of a look-up tells, if it tells one. -/
def toldStatus : Except Backend.Error String → Option Status
  | .ok word => Status.ofName? word
  | .error _ => none

lemma toldStatus_eq_some_iff {result : Except Backend.Error String} {status : Status} :
    toldStatus result = some status ↔ result = .ok status.name := by
  cases result with
  | ok word => simp [toldStatus, Status.ofName?_eq_some_iff]
  | error error => simp [toldStatus]

/-- The first failure among some results. -/
def firstFailure : List (Except Backend.Error String) → Option Backend.Error
  | [] => none
  | .ok _ :: more => firstFailure more
  | .error error :: _ => some error

lemma firstFailure_eq_none_iff {results : List (Except Backend.Error String)} :
    firstFailure results = none ↔ ∀ result ∈ results, ∃ word, result = .ok word := by
  induction results with
  | nil => simp [firstFailure]
  | cons result results ih =>
    cases result with
    | ok word => simp [firstFailure, ih]
    | error error => simp [firstFailure]

lemma firstFailure_append {front back : List (Except Backend.Error String)}
    (hfront : firstFailure front = none) : firstFailure (front ++ back) = firstFailure back := by
  induction front with
  | nil => rfl
  | cons result front ih =>
    cases result with
    | ok word => exact ih hfront
    | error error => cases hfront

end Review

namespace Thread

open Review (Results toldStatus)

/-- The thread with everything noted that some look-ups have told. -/
def notingAll (thread : Thread) : Results → Thread
  | [] => thread
  | (index, result) :: more => (thread.noting index (toldStatus result)).notingAll more

variable {thread : Thread} {place : Nat} {entry : Entry} {results : Results}

lemma nextIndex_notingAll (thread : Thread) (results : Results) :
    (thread.notingAll results).nextIndex = thread.nextIndex := by
  induction results generalizing thread with
  | nil => rfl
  | cons found results ih => exact (ih _).trans (nextIndex_noting thread found.1 _)

lemma map_index_noting (thread : Thread) (index : UInt32) (status? : Option Status) :
    (thread.noting index status?).entries.map Entry.index = thread.entries.map Entry.index := by
  cases status? with
  | none => rfl
  | some status => exact map_entries_modify (fun _ => by rfl) thread index

/-- Where no index stands twice, a status is noted in the entry with its index and in no other. -/
lemma getElem?_noting (hentry : thread.entries[place]? = some entry)
    (hdistinct : (thread.entries.map Entry.index).Nodup) (index : UInt32)
    (status? : Option Status) :
    (thread.noting index status?).entries[place]? =
      some (if entry.index = index then entry.noting status? else entry) := by
  cases status? with
  | none => simpa [noting, Entry.noting] using hentry
  | some status =>
    obtain ⟨entries, next⟩ := thread
    show ((⟨entries, next⟩ : Thread).modify index fun entry => entry.noting (some status)).entries[_]?
      = _
    induction entries generalizing place with
    | nil => cases hentry
    | cons first rest ih =>
      obtain ⟨hfirst, hrest⟩ := List.nodup_cons.mp hdistinct
      rw [modify_cons]
      cases place with
      | zero =>
        obtain rfl : first = entry := Option.some.inj hentry
        split <;> rfl
      | succ place =>
        have hlater : rest[place]? = some entry := hentry
        split
        next haddressed =>
          have hother : entry.index ≠ index := by
            rintro rfl
            exact hfirst (haddressed ▸ List.mem_map_of_mem (List.mem_of_getElem? hlater))
          rw [if_neg hother]
          exact hlater
        next => exact ih hlater hrest

lemma length_notingAll (thread : Thread) (results : Results) :
    (thread.notingAll results).entries.length = thread.entries.length := by
  induction results generalizing thread with
  | nil => rfl
  | cons found results ih =>
    refine (ih _).trans ?_
    simpa using congrArg List.length (map_index_noting thread found.1 (toldStatus found.2))

lemma getElem?_notingAll_of_others (hentry : thread.entries[place]? = some entry)
    (hdistinct : (thread.entries.map Entry.index).Nodup)
    (hothers : ∀ found ∈ results, found.1 ≠ entry.index) :
    (thread.notingAll results).entries[place]? = some entry := by
  induction results generalizing thread with
  | nil => exact hentry
  | cons found results ih =>
    have hother : entry.index ≠ found.1 := (hothers found List.mem_cons_self).symm
    refine ih ?_ ?_ fun later hlater => hothers later (List.mem_cons_of_mem _ hlater)
    · rw [getElem?_noting hentry hdistinct, if_neg hother]
    · rwa [map_index_noting]

/-- Where no index is looked up twice, an entry has the status that its own look-up has told. -/
lemma getElem?_notingAll (hentry : thread.entries[place]? = some entry)
    (hdistinct : (thread.entries.map Entry.index).Nodup) (hunknown : entry.status = none)
    (hresults : (results.map Prod.fst).Nodup) {result : Except Backend.Error String}
    (hmem : (entry.index, result) ∈ results) :
    (thread.notingAll results).entries[place]? =
      some { entry with status := toldStatus result } := by
  induction results generalizing thread with
  | nil => cases hmem
  | cons found results ih =>
    obtain ⟨hfirst, hresults⟩ := List.nodup_cons.mp hresults
    have hnoted := getElem?_noting hentry hdistinct found.1 (toldStatus found.2)
    rw [← map_index_noting thread found.1 (toldStatus found.2)] at hdistinct
    show ((thread.noting found.1 (toldStatus found.2)).notingAll results).entries[place]? = _
    rcases List.mem_cons.mp hmem with rfl | hmem
    · -- the status is noted now, and no later look-up is about this entry
      rw [if_pos rfl, Entry.noting, hunknown, Option.or_none] at hnoted
      refine getElem?_notingAll_of_others hnoted hdistinct fun later hlater hsame => hfirst ?_
      have hindex := List.mem_map_of_mem (f := Prod.fst) hlater
      rwa [hsame] at hindex
    · have hother : entry.index ≠ found.1 := by
        intro hsame
        exact hfirst (hsame ▸ List.mem_map_of_mem hmem)
      rw [if_neg hother] at hnoted
      exact ih hnoted hdistinct hresults hmem

end Thread

namespace Review

/-- Entries that are there have their results recorded, and the first failure is told. -/
lemma recordAll_eq {results : Results} {now : View}
    (hfound : ∀ told ∈ results, ∃ entry, now.thread.find? told.1 = some entry) :
    recordAll results now = .done (.returned (firstFailure (results.map Prod.snd)),
      { now with thread := now.thread.notingAll results }) := by
  induction results generalizing now with
  | nil => rfl
  | cons told results ih =>
    obtain ⟨index, error | word⟩ := told
    · have hlater := ih fun told hmem => hfound told (List.mem_cons_of_mem _ hmem)
      show (recordAll results >>= fun _ => pure (some error)) now = _
      rw [Procedure.bind_of_returned hlater]
      rfl
    · obtain ⟨entry, hentry⟩ := hfound _ List.mem_cons_self
      have hrecorded := recordStatus_eq (Thread.get_eq_ok_iff.mpr hentry) word
      show (recordStatus index word >>= fun _ => recordAll results) now = _
      rw [Procedure.bind_of_returned hrecorded, ih]
      · rfl
      · intro told hmem
        obtain ⟨entry, hentry⟩ := hfound told (List.mem_cons_of_mem _ hmem)
        obtain ⟨late, hlate, -⟩ := Thread.find?_noting hentry index (Status.ofName? word)
        exact ⟨late, hlate⟩

/-! ## Listed updates -/

/-- Listed updates are appended under the indices that come next, and named by them. -/
lemma appendListed_eq (listed : List Listed) (entries : List Entry) (count : Nat) :
    appendListed listed ⟨entries, UInt32.ofNat count⟩ =
      ((listed.zipIdx count).map fun (update, place) => (UInt32.ofNat place, update.updateId),
        { entries := entries ++ (listed.zipIdx count).map fun (update, place) =>
            ⟨UInt32.ofNat place, .ofListed update, none, false⟩
          nextIndex := UInt32.ofNat (count + listed.length) }) := by
  induction listed generalizing entries count with
  | nil => simp [appendListed]
  | cons first listed ih =>
    have hnext : UInt32.ofNat count + 1 = UInt32.ofNat (count + 1) :=
      (UInt32.ofNat_add count 1).symm
    have hlength : count + (listed.length + 1) = count + 1 + listed.length := by omega
    simp only [appendListed, Thread.append, hnext, ih, List.zipIdx_cons, List.map_cons,
      List.length_cons, List.append_assoc, List.singleton_append, hlength]

lemma appendListed_empty (listed : List Listed) :
    appendListed listed .empty =
      (listed.zipIdx.map fun (update, place) => (UInt32.ofNat place, update.updateId),
        { entries := listed.zipIdx.map fun (update, place) =>
            ⟨UInt32.ofNat place, .ofListed update, none, false⟩
          nextIndex := UInt32.ofNat listed.length }) := by
  have happended := appendListed_eq listed [] 0
  rwa [Nat.zero_add] at happended

end Review

/-! ## Replies to a mount -/

/-- What the backend replies while an annotation is mounted. -/
inductive LoadReplies where
  /-- The question for the updates fails. -/
  | unlisted (error : Backend.Error)
  /-- The updates are listed, and the look-up of each of them has a result. -/
  | listed (found : List (Listed × Except Backend.Error String))

namespace LoadReplies

open Review (Results firstFailure lookedUp toldStatus)

/-- The updates that are listed, each with the result of its look-up. -/
def found : LoadReplies → List (Listed × Except Backend.Error String)
  | .unlisted _ => []
  | .listed found => found

/-- The failure that is reported: that of the list, or the first one in the order of the list. -/
def failure? : LoadReplies → Option Backend.Error
  | .unlisted error => some error
  | .listed found => firstFailure (found.map Prod.snd)

/-- The calls of a mount with these replies.  The list comes first; without it nothing is looked up,
and with it the look-ups end as they arrive. -/
def exchanges (replies : LoadReplies) (arrivals : Arrivals) (key : SlotKey) : List Exchange :=
  match replies with
  | .unlisted error => [⟨⟨key.viewer, .updatesOf key.annotationId⟩, .failed error⟩]
  | .listed found =>
    ⟨⟨key.viewer, .updatesOf key.annotationId⟩, .answered (found.map Prod.fst)⟩ ::
      arrivals.deliver (found.map fun (update, result) =>
        lookedUp key.viewer update.updateId result)

/-- The results of the look-ups under the indices of the entries. -/
def results (replies : LoadReplies) : Results :=
  replies.found.zipIdx.map fun ((_, result), place) => (UInt32.ofNat place, result)

/-- The thread that the replies make. -/
def thread (replies : LoadReplies) : Thread :=
  (Review.appendListed (replies.found.map Prod.fst) .empty).2.notingAll replies.results

/-- The view that the replies make. -/
def view (replies : LoadReplies) (key : SlotKey) (text : String) : View :=
  { View.fresh key.annotationId key.viewer text with
    thread := replies.thread
    notice := replies.failure?.map fun error => (Review.Error.backend error).notice }

end LoadReplies

/-- An entry shows the update that is listed at a place, and of its status what the look-up has
told. -/
structure Entry.LoadedFrom (entry : Entry) (place : Nat) (listed : Listed)
    (result : Except Backend.Error String) : Prop where
  index : entry.index.toNat = place
  id : entry.update.id = listed.updateId
  proposer : entry.update.proposer = listed.proposer
  submittedAt : entry.update.submittedAt = listed.submittedAt
  text : entry.update.text = listed.text
  comment : entry.update.comment = listed.comment
  byAuthor : entry.update.origin = .author ↔ listed.proposer = listed.annotationAuthor
  status : ∀ status, entry.status = some status ↔ result = .ok status.name

/-- The thread shows the listed updates and nothing else: all of them, in their order, and numbered
from zero. -/
structure LoadReplies.Loaded (replies : LoadReplies) (thread : Thread) : Prop where
  length : thread.entries.length = replies.found.length
  visible : thread.visible = thread.entries
  counter : thread.nextIndex.toNat = replies.found.length
  entry : ∀ {place : Nat} {listed : Listed} {result : Except Backend.Error String},
    replies.found[place]? = some (listed, result) →
      ∃ entry, thread.entries[place]? = some entry ∧ entry.LoadedFrom place listed result

/-- What is seen after a mount with these replies. -/
structure LoadReplies.Shows (replies : LoadReplies) (key : SlotKey) (text : String) (view : View) :
    Prop where
  pair : view.key = key
  text : view.text = text
  previousText : view.previousText = none
  display : view.display = .viewing
  editOffered : view.editOffered = true
  panels : view.panels = .empty
  thread : replies.found.length < UInt32.size → replies.Loaded view.thread
  /-- There is no notice if all calls have succeeded, and only then. -/
  quiet : view.notice = none ↔ ∃ found, replies = .listed found ∧
    ∀ update ∈ found, ∃ word, update.2 = .ok word
  unlisted : ∀ error, replies = .unlisted error →
    view.thread = .empty ∧ view.notice = some (Review.Error.backend error).notice
  /-- The notice tells the first failure in the order of the list. -/
  failed : ∀ front listed error back, replies = .listed (front ++ (listed, .error error) :: back) →
    (∀ update ∈ front, ∃ word, update.2 = .ok word) →
      view.notice = some (Review.Error.backend error).notice

namespace LoadReplies

open Review (firstFailure firstFailure_append firstFailure_eq_none_iff toldStatus
  toldStatus_eq_some_iff)

variable {replies : LoadReplies} {place : Nat} {listed : Listed}
  {result : Except Backend.Error String}

/-- The listed updates are appended under their places. -/
lemma appendListed_found (replies : LoadReplies) :
    Review.appendListed (replies.found.map Prod.fst) .empty =
      (replies.found.zipIdx.map fun ((update, _), place) =>
          (UInt32.ofNat place, update.updateId),
        { entries := replies.found.zipIdx.map fun ((update, _), place) =>
            ⟨UInt32.ofNat place, .ofListed update, none, false⟩
          nextIndex := UInt32.ofNat replies.found.length }) := by
  rw [Review.appendListed_empty, List.zipIdx_map, List.map_map, List.map_map, List.length_map]
  rfl

/-- Fewer than `UInt32.size` places are told apart as indices. -/
lemma nodup_results (hfew : replies.found.length < UInt32.size) :
    (replies.results.map Prod.fst).Nodup := by
  have hindices : replies.results.map Prod.fst =
      (List.range' 0 replies.found.length).map UInt32.ofNat := by
    rw [results, List.map_map, ← List.zipIdx_map_snd, List.map_map]
    rfl
  rw [hindices]
  refine List.Nodup.map_on (fun first hfirst second hsecond hsame => ?_) List.nodup_range'
  have hfirst : first < replies.found.length := by simpa using hfirst
  have hsecond : second < replies.found.length := by simpa using hsecond
  have hplaces := congrArg UInt32.toNat hsame
  rwa [UInt32.toNat_ofNat_of_lt' (by omega), UInt32.toNat_ofNat_of_lt' (by omega)] at hplaces

/-- What stands at a place is told by the update and the result there. -/
lemma getElem?_thread (hfew : replies.found.length < UInt32.size)
    (hfound : replies.found[place]? = some (listed, result)) :
    replies.thread.entries[place]? =
      some ⟨UInt32.ofNat place, .ofListed listed, toldStatus result, false⟩ := by
  have hplaced : replies.found.zipIdx[place]? = some ((listed, result), place) := by
    rw [List.getElem?_zipIdx, hfound, Nat.zero_add]
    rfl
  have hlooked : (UInt32.ofNat place, result) ∈ replies.results :=
    List.mem_map.mpr ⟨_, List.mem_of_getElem? hplaced, rfl⟩
  have happended : (Review.appendListed (replies.found.map Prod.fst) .empty).2.entries[place]? =
      some ⟨UInt32.ofNat place, .ofListed listed, none, false⟩ := by
    rw [appendListed_found, List.getElem?_map, hplaced]
    rfl
  have hdistinct : ((Review.appendListed (replies.found.map Prod.fst) .empty).2.entries.map
      Entry.index).Nodup := by
    have hindices := nodup_results hfew
    rw [results, List.map_map] at hindices
    rw [appendListed_found, List.map_map]
    exact hindices
  exact Thread.getElem?_notingAll happended hdistinct rfl (nodup_results hfew) hlooked

lemma length_thread (replies : LoadReplies) :
    replies.thread.entries.length = replies.found.length := by
  rw [thread, Thread.length_notingAll, appendListed_found, List.length_map, List.length_zipIdx]

lemma loaded_thread (hfew : replies.found.length < UInt32.size) :
    replies.Loaded replies.thread where
  length := replies.length_thread
  visible := by
    refine List.filter_eq_self.mpr fun entry hentry => ?_
    obtain ⟨place, hplace⟩ := List.mem_iff_getElem?.mp hentry
    obtain ⟨hlt, -⟩ := List.getElem?_eq_some_iff.mp hplace
    rw [length_thread] at hlt
    rw [getElem?_thread hfew (List.getElem?_eq_getElem hlt)] at hplace
    cases hplace
    rfl
  counter := by
    rw [thread, Thread.nextIndex_notingAll, appendListed_found]
    exact UInt32.toNat_ofNat_of_lt' hfew
  entry := by
    intro place listed result hfound
    obtain ⟨hlt, -⟩ := List.getElem?_eq_some_iff.mp hfound
    refine ⟨_, getElem?_thread hfew hfound, ?_, rfl, rfl, rfl, rfl, rfl, ?_, ?_⟩
    · exact UInt32.toNat_ofNat_of_lt' (Nat.lt_trans hlt hfew)
    · show (if _ then Origin.author else Origin.judger) = _ ↔ _
      split <;> simp_all
    · intro status
      exact toldStatus_eq_some_iff

lemma failure?_eq_none_iff : replies.failure? = none ↔ ∃ found, replies = .listed found ∧
    ∀ update ∈ found, ∃ word, update.2 = .ok word := by
  cases replies with
  | unlisted error => simp [failure?]
  | listed found =>
    simp only [failure?, firstFailure_eq_none_iff, List.mem_map, listed.injEq, exists_eq_left']
    constructor
    · intro hresults update hupdate
      exact hresults update.2 ⟨update, hupdate, rfl⟩
    · rintro hupdates _ ⟨update, hupdate, rfl⟩
      exact hupdates update hupdate

/-- The view that the replies make shows them. -/
lemma shows_view (replies : LoadReplies) (key : SlotKey) (text : String) :
    replies.Shows key text (replies.view key text) where
  pair := rfl
  text := rfl
  previousText := rfl
  display := rfl
  editOffered := rfl
  panels := rfl
  thread := loaded_thread
  quiet := by
    rw [← failure?_eq_none_iff]
    exact Option.map_eq_none_iff
  unlisted := by
    rintro error rfl
    exact ⟨rfl, rfl⟩
  failed := by
    rintro front listed error back rfl hfront
    have hquiet : firstFailure (front.map Prod.snd) = none := by
      refine firstFailure_eq_none_iff.mpr fun result hresult => ?_
      obtain ⟨update, hupdate, rfl⟩ := List.mem_map.mp hresult
      exact hfront update hupdate
    have hfailure : (LoadReplies.listed (front ++ (listed, .error error) :: back)).failure? =
        some error := by
      rw [failure?, List.map_append, firstFailure_append hquiet]
      rfl
    rw [view, hfailure]
    rfl

end LoadReplies

/-! ## Loading -/

namespace LoadReplies

open Review (lookedUp lookUpTogether path_lookUpTogether exists_of_path_lookUpTogether)

/-- The names that are looked up, each with the result. -/
def asked (replies : LoadReplies) : List ((UInt32 × String) × Except Backend.Error String) :=
  replies.found.zipIdx.map fun ((update, result), place) =>
    ((UInt32.ofNat place, update.updateId), result)

lemma map_fst_asked (replies : LoadReplies) :
    replies.asked.map Prod.fst = (Review.appendListed (replies.found.map Prod.fst) .empty).1 := by
  rw [appendListed_found, asked, List.map_map]
  rfl

lemma map_snd_asked (replies : LoadReplies) :
    replies.asked.map Prod.snd = replies.found.map Prod.snd := by
  rw [asked, List.map_map]
  exact map_zipIdx replies.found Prod.snd

lemma map_asked (replies : LoadReplies) :
    replies.asked.map (fun (name, result) => (name.1, result)) = replies.results := by
  rw [asked, List.map_map]
  rfl

lemma lookedUp_asked (replies : LoadReplies) (viewer : String) :
    replies.asked.map (fun (name, result) => lookedUp viewer name.2 result) =
      replies.found.map fun (update, result) => lookedUp viewer update.updateId result := by
  rw [asked, List.map_map]
  exact map_zipIdx replies.found fun update => lookedUp viewer update.1.updateId update.2

/-- However they arrive, the results are told in the order of the list. -/
lemma path_lookUps (replies : LoadReplies) (arrivals : Arrivals) (viewer : String) (now : View) :
    Path (lookUpTogether arrivals viewer
        (Review.appendListed (replies.found.map Prod.fst) .empty).1 now)
      (arrivals.deliver (replies.found.map fun (update, result) =>
        lookedUp viewer update.updateId result))
      (.returned replies.results, now) := by
  have hpath := path_lookUpTogether arrivals viewer replies.asked now
  rwa [map_fst_asked, lookedUp_asked, map_asked] at hpath

/-- Unless a call breaks down, the look-ups of a list come to the results of some replies. -/
lemma exists_of_path_lookUps {arrivals : Arrivals} {viewer : String} {listed : List Listed}
    {now after : View} {exchanges : List Exchange} {ending : Review.Ending Review.Results}
    (hpath : Path (lookUpTogether arrivals viewer (Review.appendListed listed .empty).1 now)
      exchanges (ending, after))
    (hkept : ∀ exchange ∈ exchanges, ¬Review.BrokeDown exchange) :
    ∃ found, listed = found.map Prod.fst ∧
      exchanges = arrivals.deliver (found.map fun (update, result) =>
        lookedUp viewer update.updateId result) ∧
      ending = .returned (LoadReplies.listed found).results ∧ after = now := by
  obtain ⟨asked, hnames, rfl, rfl, rfl⟩ := exists_of_path_lookUpTogether hpath hkept
  have hlength : (asked.map Prod.snd).length = listed.length := by
    rw [List.length_map, ← List.length_map (f := Prod.fst), hnames, Review.appendListed_empty,
      List.length_map, List.length_zipIdx]
  obtain ⟨found, rfl, hresults⟩ : ∃ found : List (Listed × Except Backend.Error String),
      found.map Prod.fst = listed ∧ found.map Prod.snd = asked.map Prod.snd :=
    ⟨listed.zip (asked.map Prod.snd), List.map_fst_zip (Nat.le_of_eq hlength.symm),
      List.map_snd_zip (Nat.le_of_eq hlength)⟩
  -- names and results determine what was asked, so nothing else can have been
  have hasked : (LoadReplies.listed found).asked = asked := by
    have hfirst := (LoadReplies.listed found).map_fst_asked.trans hnames.symm
    have hsecond := (LoadReplies.listed found).map_snd_asked.trans hresults
    rw [List.zip_of_prod hfirst hsecond, ← List.zip_of_prod rfl rfl]
  refine ⟨found, rfl, ?_, ?_, rfl⟩
  · rw [← hasked, lookedUp_asked]
    rfl
  · rw [← hasked, map_asked]

end LoadReplies

namespace Review

open Procedure

/-- What a mount does once the look-ups are over. -/
def finishLoading (count : Nat) (results : Results) : Procedure Nat := do
  match ← recordAll results with
  | none => return count
  | some error => fail (.backend error)

/-- `loadThread` with another way to look statuses up. -/
def loadThreadBy (lookUps : String → List (UInt32 × String) → Procedure Results) :
    Procedure Nat := do
  let now ← Procedure.view
  let listed ← require ⟨now.viewer, .updatesOf now.annotationId⟩
  let now ← Procedure.view
  let (appended, thread) := appendListed listed now.thread
  setView { now with thread }
  let results ← lookUps now.viewer appended
  finishLoading appended.length results

/-- `mount` with look-ups whose results arrive in some order. -/
def mountTogether (arrivals : Arrivals) (annotationId viewer text : String) : Operation Nat :=
  settle do
    setView (.fresh annotationId viewer text)
    loadThreadBy (lookUpTogether arrivals)

/-- Look-ups whose results are in their places are among those whose results arrive in some
order. -/
lemma mountTogether_inOrder : mountTogether .inOrder = mount := by
  funext annotationId viewer text now
  rw [mountTogether, lookUpTogether_inOrder]
  rfl

/-- The view while the look-ups are under way. -/
def loading (key : SlotKey) (text : String) (listed : List Listed) : View :=
  { View.fresh key.annotationId key.viewer text with
    thread := (appendListed listed .empty).2 }

/-- A mount asks for the updates first; the look-ups go by the list it gets. -/
lemma loadThreadBy_eq (lookUps : String → List (UInt32 × String) → Procedure Results)
    (key : SlotKey) (text : String) :
    loadThreadBy lookUps (.fresh key.annotationId key.viewer text) =
      .ask ⟨key.viewer, .updatesOf key.annotationId⟩ fun
        | .answered listed => (lookUps key.viewer (appendListed listed .empty).1 >>=
            finishLoading (appendListed listed .empty).1.length) (loading key text listed)
        | .failed error =>
          .done (.failed (.backend error), .fresh key.annotationId key.viewer text)
        | .panicked message =>
          .done (.aborted message, .fresh key.annotationId key.viewer text) := by
  rw [loadThreadBy, view_bind, require_bind]
  refine congrArg (Dialogue.ask _) (funext fun outcome => ?_)
  cases outcome <;> rfl

/-- Once the look-ups are over nothing is left to ask, and the view is the one that the replies
make. -/
lemma finishLoading_eq (key : SlotKey) (text : String) (count : Nat)
    (found : List (Listed × Except Backend.Error String)) :
    ∃ ending after, finishLoading count (LoadReplies.listed found).results
        (loading key text (found.map Prod.fst)) = .done (ending, after) ∧
      ending.settled after = (LoadReplies.listed found).view key text := by
  have hfound : ∀ told ∈ (LoadReplies.listed found).results, ∃ entry,
      (loading key text (found.map Prod.fst)).thread.find? told.1 = some entry := by
    intro told htold
    obtain ⟨⟨⟨update, result⟩, place⟩, hmem, rfl⟩ := List.mem_map.mp htold
    have hentries := congrArg (·.2.entries) (LoadReplies.listed found).appendListed_found
    refine Option.isSome_iff_exists.mp (List.find?_isSome.mpr ?_)
    refine ⟨⟨UInt32.ofNat place, .ofListed update, none, false⟩, ?_, by simp⟩
    exact hentries ▸ List.mem_map.mpr ⟨_, hmem, rfl⟩
  have hresults : (LoadReplies.listed found).results.map Prod.snd = found.map Prod.snd := by
    rw [LoadReplies.results, List.map_map]
    exact map_zipIdx found Prod.snd
  have hfailure : (LoadReplies.listed found).failure? =
      firstFailure ((LoadReplies.listed found).results.map Prod.snd) := by
    rw [hresults, LoadReplies.failure?]
  rw [finishLoading, bind_of_returned (recordAll_eq hfound), LoadReplies.view, hfailure]
  cases firstFailure ((LoadReplies.listed found).results.map Prod.snd) with
  | none => exact ⟨.returned count, _, rfl, rfl⟩
  | some error => exact ⟨.failed (.backend error), _, rfl, rfl⟩

/-- The backend may reply in every way, and the view becomes the one that the replies make. -/
lemma path_mountTogether (arrivals : Arrivals) (key : SlotKey) (text : String) (before : View)
    (replies : LoadReplies) :
    ∃ result, Path (mountTogether arrivals key.annotationId key.viewer text before)
      (replies.exchanges arrivals key) (result, replies.view key text) := by
  cases replies with
  | unlisted error =>
    refine ⟨_, path_settle_iff.mpr ⟨.failed (.backend error),
      .fresh key.annotationId key.viewer text, ?_, rfl, rfl⟩⟩
    rw [setView_bind, loadThreadBy_eq]
    exact .ask (.failed error) (.done _)
  | listed found =>
    obtain ⟨ending, after, hfinish, hview⟩ :=
      finishLoading_eq key text (appendListed (found.map Prod.fst) .empty).1.length found
    rw [← hview]
    refine ⟨_, path_settle_iff.mpr ⟨ending, after, ?_, rfl, rfl⟩⟩
    have hlookUps := (LoadReplies.listed found).path_lookUps arrivals key.viewer
      (loading key text (found.map Prod.fst))
    rw [setView_bind, loadThreadBy_eq]
    refine .ask _ ?_
    refine path_bind_iff.mpr ⟨_, _, [], (List.append_nil _).symm, hlookUps, ?_⟩
    show Path (finishLoading _ _ (loading key text (found.map Prod.fst))) [] (ending, after)
    rw [hfinish]
    exact .done _

/-- Unless a call breaks down, the backend replies in one of these ways. -/
lemma exists_of_path_mountTogether {arrivals : Arrivals} {key : SlotKey} {text : String}
    {before next : View} {exchanges : List Exchange} {result : Except Error Nat}
    (hpath : Path (mountTogether arrivals key.annotationId key.viewer text before) exchanges
      (result, next))
    (hkept : ∀ exchange ∈ exchanges, ¬BrokeDown exchange) :
    ∃ replies : LoadReplies, exchanges = replies.exchanges arrivals key := by
  obtain ⟨ending, after, hbody, rfl, rfl⟩ := path_settle_iff.mp hpath
  rw [setView_bind, loadThreadBy_eq] at hbody
  cases hbody with
  | @ask _ _ later _ outcome hrest =>
    cases outcome with
    | panicked message => exact absurd ⟨message, rfl⟩ (hkept _ List.mem_cons_self)
    | failed error =>
      cases hrest
      exact ⟨.unlisted error, rfl⟩
    | answered listed =>
      obtain ⟨front, ⟨middle, left⟩, back, rfl, hfront, hback⟩ := path_bind_iff.mp hrest
      obtain ⟨found, rfl, rfl, rfl, rfl⟩ := LoadReplies.exists_of_path_lookUps hfront
        fun exchange hmem =>
          hkept exchange (List.mem_cons_of_mem _ (List.mem_append_left _ hmem))
      obtain ⟨_, _, hfinish, -⟩ :=
        finishLoading_eq key text (appendListed (found.map Prod.fst) .empty).1.length found
      change Path (finishLoading _ _ (loading key text (found.map Prod.fst))) _ _ at hback
      rw [hfinish] at hback
      cases hback
      exact ⟨.listed found, by rw [List.append_nil]; rfl⟩

end Review

/-! ## Mounting for a pair -/

namespace Registry

open Review (BrokeDown)

/-- `mount` with look-ups whose results arrive in some order. -/
def mountTogether (registry : Registry) (arrivals : Arrivals) (now : Nat) (key : SlotKey)
    (text : String) : Dialogue (SlotId × Registry) := do
  let fresh := View.fresh key.annotationId key.viewer text
  let (slot, _, registry) := registry.getOrInsert now key fresh
  let (_, registry) ←
    registry.perform slot (Review.mountTogether arrivals key.annotationId key.viewer text)
  return (slot, registry)

lemma mount_eq_mountTogether (registry : Registry) (now : Nat) (key : SlotKey) (text : String) :
    registry.mount now key text = registry.mountTogether .inOrder now key text := by
  rw [mountTogether, Review.mountTogether_inOrder]
  rfl

variable {registry : Registry} {key : SlotKey}

/-- A mount works on the slot of its pair, whatever that shows before. -/
lemma mountTogether_eq (hmounted : ∀ slot, registry.find? key = some slot →
      ∃ before, registry.view? slot = some before) (arrivals : Arrivals) (now : Nat)
    (text : String) :
    ∃ (slot : SlotId) (middle : Registry) (before : View), middle.find? key = some slot ∧
      middle.view? slot = some before ∧
      registry.mountTogether arrivals now key text =
        (Review.mountTogether arrivals key.annotationId key.viewer text before).bind
          fun (_, view) => .done (slot, middle.setView slot view) := by
  obtain ⟨slot, made, middle, before, hgot, hfind, hview⟩ :
      ∃ (slot : SlotId) (made : Bool) (middle : Registry) (before : View),
        registry.getOrInsert now key (.fresh key.annotationId key.viewer text) =
          (slot, made, middle) ∧
        middle.find? key = some slot ∧ middle.view? slot = some before := by
    cases hfind : registry.find? key with
    | none =>
      exact ⟨_, _, _, _, getOrInsert_of_none hfind, find?_add_self hfind, view?_add_length _⟩
    | some slot =>
      obtain ⟨before, hbefore⟩ := hmounted slot hfind
      exact ⟨_, _, _, before, getOrInsert_of_some hfind, hfind,
        (view?_touch registry now slot slot).trans hbefore⟩
  refine ⟨slot, middle, before, hfind, hview, ?_⟩
  simp only [mountTogether, hgot, perform_eq hview, Dialogue.bind_eq, Dialogue.bind_assoc]
  rfl

/-- **A mount is a function of the replies.**  For every pair and text, the view after a mount is
the one that the backend's replies make, and it shows them as `LoadReplies.Shows` says.  This is so
whether the pair was mounted before or not, whatever its slot showed, and in whichever order the
look-ups come back, of which the order of the list is a special case.  Every reply of the backend is
accounted for, so long as no call breaks down. -/
theorem mounted_view_told_by_replies (key : SlotKey) (text : String) :
    (∀ (registry : Registry) (now : Nat),
        registry.mount now key text = registry.mountTogether .inOrder now key text) ∧
      (∀ replies : LoadReplies, replies.Shows key text (replies.view key text)) ∧
      ∀ (arrivals : Arrivals) (registry : Registry) (now : Nat),
        (∀ slot, registry.find? key = some slot → ∃ before, registry.view? slot = some before) →
          (∀ replies : LoadReplies, ∃ slot after,
            (∀ last, Path (registry.mountTogether arrivals now key text)
              (replies.exchanges arrivals key) last ↔ last = (slot, after)) ∧
            after.find? key = some slot ∧ after.view? slot = some (replies.view key text)) ∧
          ∀ exchanges last, Path (registry.mountTogether arrivals now key text) exchanges last →
            (∀ exchange ∈ exchanges, ¬BrokeDown exchange) →
              ∃ replies : LoadReplies, exchanges = replies.exchanges arrivals key := by
  refine ⟨fun registry now => mount_eq_mountTogether registry now key text,
    fun replies => replies.shows_view key text, ?_⟩
  intro arrivals registry now hmounted
  obtain ⟨slot, middle, before, hfind, hview, hmount⟩ :=
    mountTogether_eq hmounted arrivals now text
  rw [hmount]
  constructor
  · intro replies
    obtain ⟨result, hpath⟩ := Review.path_mountTogether arrivals key text before replies
    have hdone : Path ((Review.mountTogether arrivals key.annotationId key.viewer text before).bind
          fun (_, view) => .done (slot, middle.setView slot view)) (replies.exchanges arrivals key)
        (slot, middle.setView slot (replies.view key text)) :=
      path_bind_iff.mpr ⟨_, _, [], (List.append_nil _).symm, hpath, .done _⟩
    refine ⟨slot, middle.setView slot (replies.view key text), fun last => ⟨?_, ?_⟩, hfind,
      view?_setView_self hview _⟩
    · exact fun hlast => Dialogue.path_value_unique hlast hdone
    · rintro rfl
      exact hdone
  · intro exchanges last hpath hkept
    obtain ⟨front, ⟨result, next⟩, back, rfl, hfront, hback⟩ := path_bind_iff.mp hpath
    obtain ⟨replies, rfl⟩ := Review.exists_of_path_mountTogether hfront fun exchange hmem =>
      hkept exchange (List.mem_append_left _ hmem)
    cases hback
    exact ⟨replies, List.append_nil _⟩

/-- The pair is mounted, and an edit is being written. -/
def occupied : Registry := ⟨[⟨Review.editing, 3⟩], [(⟨"author", "A1"⟩, 0)]⟩

/-- Two updates have one name, one of their look-ups fails, and the word for the third update is no
status. -/
def mixedReplies : LoadReplies :=
  .listed
    [(⟨"U1", "author", "judge", "t1", "list every file", "says every"⟩, .ok "open"),
      (⟨"U1", "author", "author", "t2", "show files", "is shorter"⟩, .error .undecodable),
      (⟨"U2", "author", "judge", "t3", "print files", "is clearer"⟩, .ok "archived")]

/-- The last look-up comes back first, and nothing is left of the edit. -/
theorem mounted_view_told_by_mixed_replies : ∃ slot after,
    Path (occupied.mountTogether .reversed 7 ⟨"author", "A1"⟩ "list all files")
      (mixedReplies.exchanges .reversed ⟨"author", "A1"⟩) (slot, after) ∧
    mixedReplies.Loaded (mixedReplies.view ⟨"author", "A1"⟩ "list all files").thread ∧
    after.view? slot = some
      { View.fresh "A1" "author" "list all files" with
        thread :=
          ⟨[⟨0, ⟨"U1", "judge", "t1", "list every file", "says every", .judger⟩, some .opened,
              false⟩,
            ⟨1, ⟨"U1", "author", "t2", "show files", "is shorter", .author⟩, none, false⟩,
            ⟨2, ⟨"U2", "judge", "t3", "print files", "is clearer", .judger⟩, none, false⟩], 3⟩
        notice := some ⟨.transport, "HTTP request failed: error decoding response body"⟩ } := by
  obtain ⟨-, hshows, hmounts⟩ :=
    mounted_view_told_by_replies ⟨"author", "A1"⟩ "list all files"
  have hmounted : ∀ slot, occupied.find? ⟨"author", "A1"⟩ = some slot →
      ∃ before, occupied.view? slot = some before := by
    rintro _ ⟨⟩
    exact ⟨Review.editing, rfl⟩
  obtain ⟨hreplies, -⟩ := hmounts .reversed occupied 7 hmounted
  obtain ⟨slot, after, hlast, -, hview⟩ := hreplies mixedReplies
  exact ⟨slot, after, (hlast _).mpr rfl, (hshows mixedReplies).thread (by decide), hview⟩

end Registry

end AnnotationReview
