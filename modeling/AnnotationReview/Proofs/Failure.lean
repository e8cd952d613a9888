import AnnotationReview.Proofs.Readback

/-!
# Failed requests are noticed

An error is turned into an answer to the request by the host, and into a notice on the view by the
operation that has failed.  The two mappings are kept apart in the program; here they are shown to
agree (`Answer.Fits`), and every request about a mounted annotation that is answered with an error
is shown to leave the notice of that very error (`failure_noticed`).

Two requests are answered with an error before they come to a view, and leave no notice: one that
mounts an annotation without a name, and one that asks for an edit of an unknown target.  The second
fails although its annotation is mounted and every other failure of an edit is noticed
(`unknown_target_not_noticed`).
-/

namespace AnnotationReview

open Backend (Dialogue)
open Backend.Dialogue (Exchange Path)

/-! ## The notice of a failed command -/

namespace Review

/-- A settled error is the one that is noticed. -/
lemma Ending.notice_settled {α β : Type} {ending : Ending α} {f : α → β} {error : Error}
    (hresult : ending.result.map f = .error error) (after : View) :
    (ending.settled after).notice = some error.notice := by
  cases ending <;> cases hresult <;> rfl

/-- A command that fails leaves the notice of its error. -/
lemma notice_of_error {now next : View} {command : Command} {exchanges : List Exchange}
    {error : Error} (hpath : Path (command.operation now) exchanges (.error error, next)) :
    next.notice = some error.notice := by
  generalize hresult : (Except.error error : Except Error CommandResult) = result at hpath
  cases course_of_path hpath with
  | refused => cases hresult; rfl
  | refreshed hget hlookUp => exact Ending.notice_settled hresult.symm _
  | editFailed => cases hresult; rfl
  | editSaved hedit hget hlookUp =>
    exact Ending.notice_settled (Ending.result_of_attempted_error hresult.symm id) _
  | rejectionBrokeDown => cases hresult; rfl
  | rejectionFailed => cases hresult; rfl
  | rejectionSaved hreply rejected hget hlookUp =>
    exact Ending.notice_settled (Ending.result_of_attempted_error hresult.symm id) _
  | acceptFailed => cases hresult; rfl
  | retractFailed => cases hresult; rfl
  | _ => cases hresult

end Review

namespace Host

/-! ## Answers and notices -/

/-- The kind of a notice is the one that belongs to an answer. -/
structure Answer.Fits (answer : Answer) (kind : NoticeKind) : Prop where
  alert : kind = .alert ↔ answer.status ∈ [400, 403, 404, 409]
  transport : kind = .transport ↔ answer.code = "BACKEND_UNAVAILABLE"
  server : kind = .server ↔ answer.code = "BACKEND_ERROR" ∨ answer.code = "INTERNAL_ERROR"

/-- What is answered to an error of a review fits what is noticed of it. -/
lemma fits_answer (error : Review.Error) : (Error.review error).answer.Fits error.noticeKind := by
  cases error with
  | domain error =>
    cases error <;> constructor <;> simp [Error.answer, Review.Error.noticeKind]
  | backend error =>
    cases htransport : error.isTransport <;> constructor <;>
      simp [Error.answer, Review.Error.noticeKind, htransport]

/-- Answers are told apart by their bodies and their statuses. -/
lemma Answer.ext_body {one other : Answer} (hstatus : one.status = other.status)
    (hbody : one.body = other.body) : one = other := by
  obtain ⟨status, code, message⟩ := one
  obtain ⟨_, otherCode, otherMessage⟩ := other
  simp only [Answer.body, Json.Value.object.injEq, List.cons.injEq, Prod.mk.injEq,
    Json.Value.string.injEq] at hbody
  simp_all

/-- The response is an answer to an error. -/
def Response.Tells (response : Response) (answer : Answer) : Prop :=
  response.status = answer.status ∧ response.body = .json answer.body

/-! ## Failed requests -/

section

variable {now : Nat} {request : Request} {key : SlotKey} {server next : Server}
  {exchanges : List Exchange} {response : Response} {answer : Answer}

/-- What carries data does not tell of an error. -/
lemma body_data_ne (status : Nat) (value : Json.Value) (answer : Answer) :
    (Response.data status value).body ≠ .json answer.body := by
  simp [Response.data, Response.withBody, Answer.body]

/-- An error that is answered to a request about a mounted annotation is noticed on its view. -/
lemma noticed_of_served {registry after : Registry} {answered : Except Failure Response}
    (hserved : Served now request key registry exchanges answered after)
    (hmounted : (registry.find? key).isSome = true) (hheard : ¬request.TurnedAway)
    (htells : (respond answered).Tells answer) :
    ∃ error view, answer = (Error.review error).answer ∧ after.shown? key = some view ∧
      view.notice = some error.notice := by
  obtain ⟨hstatus, hbody⟩ := htells
  cases hserved with
  | unreadable | unmounted | written => cases hbody
  | blank hblank => exact absurd (.inl hblank) hheard
  | mistargeted hname => exact absurd (.inr ⟨_, hname⟩) hheard
  | missing hfind => simp [hfind] at hmounted
  | shown | mounted => exact absurd hbody (body_data_ne _ _ answer)
  | @commanded slot view next _ _ result _ _ hfind hview hpath hanswers =>
    cases result with
    | ok value =>
      obtain ⟨data, rfl, -⟩ := hanswers
      exact absurd hbody (body_data_ne _ _ answer)
    | error error =>
      obtain rfl : answered = _ := hanswers
      have htouched : (registry.touch now slot).view? slot = some view := by simpa using hview
      refine ⟨error, next, ?_, ?_, Review.notice_of_error hpath⟩
      · exact (Answer.ext_body hstatus (Body.json.inj hbody)).symm
      · exact Registry.shown?_of_find? hfind (Registry.view?_setView_self htouched next)

/-- **Failed requests are noticed.**  Whatever was done to a server before: when a request about an
annotation that its viewer has mounted is answered with an error, then whoever asks for the
annotation next is shown the notice of that same error, and the kind of the notice is the one that
belongs to the answer.  The one exception are requests to mount an annotation without a name and
requests for an edit of an unknown target: they leave the server as it is. -/
theorem failure_noticed (hreachable : Reachable server)
    (hmounted : (server.registry.find? key).isSome = true) (haddress : request.address? = some key)
    (hpath : Path (server.handle now request) exchanges (response, next))
    (htells : response.Tells answer) :
    (request.TurnedAway → exchanges = [] ∧ next = server) ∧
    (¬request.TurnedAway → ∃ error : Review.Error, answer = (Error.review error).answer ∧
      answer.Fits error.noticeKind ∧
      ∀ (asking : Request) (later : Nat), asking.Asks key .mounted →
        ∃ (told : Response) (after : Server) (view : View),
          next.handle later asking = .done (told, after) ∧
          told.status = 200 ∧ told.snapshot? = some view.snapshot ∧
          view.notice = some ⟨error.noticeKind, error.noticeMessage⟩) := by
  refine ⟨fun haway => (status_of_turnedAway haddress haway hpath).2, fun hheard => ?_⟩
  cases handled_of_path (owned_of_reachable hreachable) haddress hpath with
  | bypassed hbody => cases hbody.symm.trans htells.2
  | @served _ answered after hserved =>
    have htold : (respond answered).Tells answer := by
      obtain ⟨hstatus, hbody⟩ := htells
      rw [Response.status_sent] at hstatus
      rw [Response.body_sent] at hbody
      split at hbody
      · cases hbody
      · exact ⟨hstatus, hbody⟩
    obtain ⟨error, view, rfl, hshown, hnotice⟩ := noticed_of_served hserved hmounted hheard htold
    refine ⟨error, rfl, fits_answer error, fun asking later hasks => ?_⟩
    have hshows : ({ server with registry := after } : Server).registry.shown? key = some view :=
      hshown
    obtain ⟨told, left, hhandle, hfine, hdata⟩ := handle_of_asks hasks hshows later
    refine ⟨told, left, view, hhandle, hfine, ?_, hnotice⟩
    simp [Response.snapshot?, hdata, Json.Value.member?]

end

/-- What the author is answered when the backend cannot be reached. -/
def unreached : Response :=
  (respond (.error (.error (.review (.backend .undecodable))))).sent plainSettings accepting

/-- What the server is left as. -/
def unaccepted : Server :=
  { reviewed with
    registry := (reviewed.registry.touch 2 0).setView 0
      (Review.reviewing.reporting (.backend .undecodable)) }

lemma path_unreached : Path (reviewed.handle 2 accepting)
    [⟨⟨"author", .accept "U1"⟩, .failed .undecodable⟩] (unreached, unaccepted) := by
  rw [handle_accepting]
  exact .ask _ (.done _)

/-- The backend cannot be reached when the update is accepted, and the author sees it. -/
theorem failure_noticed_accepting :
    Path (reviewed.handle 2 accepting) [⟨⟨"author", .accept "U1"⟩, .failed .undecodable⟩]
      (unreached, unaccepted) ∧
    unreached.Tells ⟨502, "BACKEND_UNAVAILABLE", "The annotation backend could not be reached"⟩ ∧
    ∃ told after message, ∃ view : View, unaccepted.handle 3 looking = .done (told, after) ∧
      told.snapshot? = some view.snapshot ∧ view.notice = some ⟨.transport, message⟩ := by
  have htells : unreached.Tells
      ⟨502, "BACKEND_UNAVAILABLE", "The annotation backend could not be reached"⟩ := ⟨rfl, rfl⟩
  refine ⟨path_unreached, htells, ?_⟩
  have hheard : ¬accepting.TurnedAway := by
    rintro (⟨hresource, -⟩ | ⟨name, ⟨id, hresource⟩, -⟩) <;>
      cases resource_accepting.symm.trans hresource
  obtain ⟨error, -, hfits, hnoticed⟩ := (failure_noticed reachable_reviewed rfl address_accepting
    path_unreached htells).2 hheard
  obtain ⟨told, after, view, hhandle, -, hsnapshot, hnotice⟩ := hnoticed looking 3 asks_looking
  rw [hfits.transport.mpr rfl] at hnotice
  exact ⟨told, after, _, view, hhandle, hsnapshot, hnotice⟩

/-- The author asks for an edit of something else than the two halves of an annotation. -/
def misdirected : Request :=
  authorRequest "POST" "/api/v1/annotations/A1/edit" "\x7b\"target\": \"sql\"\x7d"

lemma resource_misdirected : Resource.ofPath? misdirected.path = some (.edit "A1") := by
  decide +kernel

lemma address_misdirected : misdirected.address? = some authorPair :=
  address_of_resource resource_misdirected (viewer_authorRequest _ _ _) key_sample

lemma mistargets_misdirected : misdirected.Mistargets "sql" := by
  have hdata : misdirected.record OpenEditData.read = .ok ⟨some "sql", none⟩ := by decide +kernel
  exact ⟨⟨"A1", resource_misdirected⟩, rfl, ⟨_, hdata, rfl⟩, by decide⟩

/-- What the author is answered about it. -/
def unknownTarget : Response :=
  (respond (.error (.error (.review (.domain (.validation
    "Invalid edit target 'sql'. Must be one of: nl, cmd")))))).sent plainSettings misdirected

lemma path_misdirected : Path (reviewed.handle 2 misdirected) [] (unknownTarget, reviewed) := by
  rw [handle_of_mistargets mistargets_misdirected address_misdirected]
  exact .done _

/-- An unknown target is answered with an error about an annotation that is mounted, and nobody sees
it. -/
theorem unknown_target_not_noticed : Reachable reviewed ∧
    (reviewed.registry.find? authorPair).isSome = true ∧
    misdirected.address? = some authorPair ∧
    Path (reviewed.handle 2 misdirected) [] (unknownTarget, reviewed) ∧
    unknownTarget.Tells
      ⟨400, "VALIDATION_ERROR", "Invalid edit target 'sql'. Must be one of: nl, cmd"⟩ ∧
    ∃ told after, ∃ view : View, reviewed.handle 3 looking = .done (told, after) ∧
      told.snapshot? = some view.snapshot ∧ view.notice = none := by
  have hshown : reviewed.registry.shown? authorPair = some Review.reviewing := rfl
  obtain ⟨told, after, hhandle, -, hbody⟩ := handle_of_asks asks_looking hshown 3
  refine ⟨reachable_reviewed, rfl, address_misdirected, path_misdirected, ⟨rfl, rfl⟩, told, after,
    Review.reviewing, hhandle, ?_, rfl⟩
  simp [Response.snapshot?, hbody, Json.Value.member?]

end Host

end AnnotationReview
