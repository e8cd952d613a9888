import AnnotationReview.Backend.Script
import Mathlib.Data.List.Basic
import Mathlib.Tactic.Lemma

/-!
# What a response is taken for

A response is judged in a fixed order: its status, its body, the success it reports and the fields
that the answer cannot do without.  `Verdict` says in one rule each what comes of it, with no
reference to how the response is read, and `conclude_eq_iff_verdict` says that every response gets
the verdict it deserves and no other.  So a call is answered only with what the backend has stated,
and its error tells which of these has failed first (`answered_as_stated`).
-/

namespace AnnotationReview.Backend

open Json (RecordShape)

namespace Query

/-! ## What a question asks of a response -/

/-- What a field holds in the answer to a question. -/
abbrev Content : Query → Type
  | .updatesOf _ => List Listed
  | .reject _ | .submit _ | .statusOf _ | .accept _ | .retract _ => Option String

/-- The shape of the answer to a question. -/
def shape : (query : Query) → RecordShape query.Content
  | .reject _ => statusShape
  | .submit _ => savedShape
  | .statusOf _ => updateStatusShape
  | .accept _ => acceptedShape
  | .retract _ => statusShape
  | .updatesOf _ => updatesShape

/-- The body is a record of the shape of the answer, with these fields. -/
def Decodes (query : Query) (body : Bytes) (fields : List (String × query.Content)) : Prop :=
  Json.readDocument query.shape.read body = .ok fields

/-- The text in a field, if there is one; a list of updates is no text. -/
def textOf : (query : Query) → List (String × query.Content) → String → Option String
  | .reject _, fields, name => fieldText fields name
  | .submit _, fields, name => fieldText fields name
  | .statusOf _, fields, name => fieldText fields name
  | .accept _, fields, name => fieldText fields name
  | .retract _, fields, name => fieldText fields name
  | .updatesOf _, _, _ => none

/-- The fields report the success of the endpoint: those that change something name it, except that
a rejection may leave it out. -/
def ReportsSuccess : (query : Query) → List (String × query.Content) → Prop
  | .submit submission, fields => fieldText fields "status" = some (submit submission).success
  | .accept updateId, fields => fieldText fields "status" = some (accept updateId).success
  | .retract updateId, fields => fieldText fields "status" = some (retract updateId).success
  | .reject updateId, fields =>
    fieldText fields "status" = none ∨ fieldText fields "status" = some (reject updateId).success
  | .statusOf _, _ => True
  | .updatesOf _, _ => True

/-- The fields that an answer cannot do without, in the order of the answer. -/
def required : Query → List String
  | .submit _ => ["update_id", "access_code", "submission_time"]
  | .accept _ => ["updated_str"]
  | .statusOf _ => ["update_status"]
  | .reject _ | .retract _ | .updatesOf _ => []

/-- The answer consists of what is in the fields. -/
def ConsistsOf : (query : Query) → query.Answer → List (String × query.Content) → Prop
  | .reject _, (), _ => True
  | .retract _, (), _ => True
  | .submit _, saved, fields => fieldText fields "update_id" = some saved.updateId ∧
      fieldText fields "access_code" = some saved.accessCode ∧
      fieldText fields "submission_time" = some saved.submittedAt
  | .statusOf _, word, fields => fieldText fields "update_status" = some word
  | .accept _, accepted, fields => fieldText fields "updated_str" = some accepted.newText ∧
      fieldText fields "old_annotation_nl" = accepted.oldText
  | .updatesOf _, listed, fields => (fields.lookup "update_list").getD [] = listed

end Query

/-- What a response to a question is taken for. -/
inductive Verdict (query : Query) (status : Nat) (body : Bytes) :
    Except Error query.Answer → Prop where
  | refused (hstatus : ¬(200 ≤ status ∧ status ≤ 299)) :
      Verdict query status body (.error (.refused status (refusalText body)))
  | undecodable (hstatus : 200 ≤ status ∧ status ≤ 299)
      (hbody : ∀ fields, ¬query.Decodes body fields) :
      Verdict query status body (.error .undecodable)
  | unsuccessful (hstatus : 200 ≤ status ∧ status ≤ 299) {fields : List (String × query.Content)}
      (hbody : query.Decodes body fields) (hsuccess : ¬query.ReportsSuccess fields) :
      Verdict query status body
        (.error (.unexpectedStatus query.endpoint query.success (query.textOf fields "status")))
  /-- The field is the first of the required ones that is missing. -/
  | incomplete (hstatus : 200 ≤ status ∧ status ≤ 299) {fields : List (String × query.Content)}
      (hbody : query.Decodes body fields) (hsuccess : query.ReportsSuccess fields)
      {front back : List String} {name : String}
      (hrequired : query.required = front ++ name :: back)
      (hfront : ∀ earlier ∈ front, query.textOf fields earlier ≠ none)
      (hmissing : query.textOf fields name = none) :
      Verdict query status body (.error (.missingField query.endpoint name))
  | answered (hstatus : 200 ≤ status ∧ status ≤ 299) {fields : List (String × query.Content)}
      (hbody : query.Decodes body fields) (hsuccess : query.ReportsSuccess fields)
      (hpresent : ∀ name ∈ query.required, query.textOf fields name ≠ none)
      {answer : query.Answer} (hanswer : query.ConsistsOf answer fields) :
      Verdict query status body (.ok answer)

/-! ## Every response gets its verdict -/

section

variable {query : Query} {status : Nat} {body : Bytes} {fields : List (String × query.Content)}

lemma isSuccess_iff : isSuccess status = true ↔ 200 ≤ status ∧ status ≤ 299 := by
  simp [isSuccess, Nat.lt_succ_iff]

/-- Fields with what is required make an answer. -/
lemma exists_consistsOf (hpresent : ∀ name ∈ query.required, query.textOf fields name ≠ none) :
    ∃ answer, query.ConsistsOf answer fields := by
  have hfound : ∀ name ∈ query.required, ∃ text, query.textOf fields name = some text :=
    fun name hname => Option.ne_none_iff_exists'.mp (hpresent name hname)
  cases query with
  | reject _ => exact ⟨(), trivial⟩
  | retract _ => exact ⟨(), trivial⟩
  | updatesOf _ => exact ⟨_, rfl⟩
  | statusOf _ => exact hfound "update_status" (by simp [Query.required])
  | accept _ =>
    obtain ⟨text, htext⟩ := hfound "updated_str" (by simp [Query.required])
    exact ⟨⟨text, _⟩, htext, rfl⟩
  | submit _ =>
    obtain ⟨updateId, hid⟩ := hfound "update_id" (by simp [Query.required])
    obtain ⟨code, hcode⟩ := hfound "access_code" (by simp [Query.required])
    obtain ⟨time, htime⟩ := hfound "submission_time" (by simp [Query.required])
    exact ⟨⟨updateId, code, time⟩, hid, hcode, htime⟩

/-- Of the required fields the first that is missing, if not all of them are there. -/
lemma exists_first_missing (hmissing : ¬∀ name ∈ query.required, query.textOf fields name ≠ none) :
    ∃ front name back, query.required = front ++ name :: back ∧
      (∀ earlier ∈ front, query.textOf fields earlier ≠ none) ∧
      query.textOf fields name = none := by
  have hfound : (query.required.find? fun name => (query.textOf fields name).isNone) ≠ none := by
    simpa [List.find?_eq_none] using hmissing
  obtain ⟨name, hname⟩ := Option.ne_none_iff_exists'.mp hfound
  obtain ⟨hnone, front, back, hrequired, hfront⟩ := List.find?_eq_some_iff_append.mp hname
  exact ⟨front, name, back, hrequired, by simpa [Option.isSome_iff_ne_none] using hfront,
    by simpa using hnone⟩

/-- Every response has a verdict. -/
lemma exists_verdict (query : Query) (status : Nat) (body : Bytes) :
    ∃ outcome, Verdict query status body outcome := by
  by_cases hstatus : ¬(200 ≤ status ∧ status ≤ 299)
  · exact ⟨_, .refused hstatus⟩
  rw [not_not] at hstatus
  by_cases hbody : ∀ fields, ¬query.Decodes body fields
  · exact ⟨_, .undecodable hstatus hbody⟩
  obtain ⟨fields, hbody⟩ := not_forall_not.mp hbody
  by_cases hsuccess : ¬query.ReportsSuccess fields
  · exact ⟨_, .unsuccessful hstatus hbody hsuccess⟩
  rw [not_not] at hsuccess
  by_cases hpresent : ∀ name ∈ query.required, query.textOf fields name ≠ none
  · obtain ⟨answer, hanswer⟩ := exists_consistsOf hpresent
    exact ⟨_, .answered hstatus hbody hsuccess hpresent hanswer⟩
  · obtain ⟨front, name, back, hrequired, hfront, hmissing⟩ := exists_first_missing hpresent
    exact ⟨_, .incomplete hstatus hbody hsuccess hrequired hfront hmissing⟩

/-! ## The verdict is what is concluded -/

/-- What is concluded from the fields of a body, if it is read. -/
def Query.settle : (query : Query) → List (String × query.Content) → Except Error query.Answer
  | .reject updateId, fields =>
    if fieldText fields "status" = none then .ok () else expectSuccess (.reject updateId) fields
  | .submit submission, fields => do
    expectSuccess (.submit submission) fields
    return {
      updateId := ← requireField (.submit submission) fields "update_id"
      accessCode := ← requireField (.submit submission) fields "access_code"
      submittedAt := ← requireField (.submit submission) fields "submission_time" }
  | .statusOf updateId, fields => requireField (.statusOf updateId) fields "update_status"
  | .accept updateId, fields => do
    expectSuccess (.accept updateId) fields
    return {
      newText := ← requireField (.accept updateId) fields "updated_str"
      oldText := fieldText fields "old_annotation_nl" }
  | .retract updateId, fields => expectSuccess (.retract updateId) fields
  | .updatesOf _, fields => .ok ((fields.lookup "update_list").getD [])

/-- Reading comes first. -/
lemma decode_eq (query : Query) (body : Bytes) :
    query.decode body = readBody query.shape body >>= query.settle := by
  cases query <;> rfl

lemma decode_of_decodes (hbody : query.Decodes body fields) :
    query.decode body = query.settle fields := by
  rw [decode_eq, readBody, hbody]
  rfl

lemma decode_of_undecodable (hbody : ∀ fields, ¬query.Decodes body fields) :
    query.decode body = .error .undecodable := by
  rw [decode_eq, readBody]
  split
  next fields hfields => exact absurd hfields (hbody fields)
  next => rfl

section

variable {texts : List (String × Option String)}

lemma expectSuccess_of_eq (hsuccess : fieldText texts "status" = some query.success) :
    expectSuccess query texts = .ok () := if_pos hsuccess

lemma expectSuccess_of_ne (hsuccess : fieldText texts "status" ≠ some query.success) :
    expectSuccess query texts =
      .error (.unexpectedStatus query.endpoint query.success (fieldText texts "status")) :=
  if_neg hsuccess

lemma requireField_of_some {name text : String} (htext : fieldText texts name = some text) :
    requireField query texts name = .ok text := by
  rw [requireField, htext]

lemma requireField_of_none {name : String} (hmissing : fieldText texts name = none) :
    requireField query texts name = .error (.missingField query.endpoint name) := by
  rw [requireField, hmissing]

lemma requireField_of_ne_none {name : String} (hpresent : fieldText texts name ≠ none) :
    ∃ text, requireField query texts name = .ok text := by
  obtain ⟨text, htext⟩ := Option.ne_none_iff_exists'.mp hpresent
  exact ⟨text, requireField_of_some htext⟩

end

lemma settle_of_unsuccessful (hsuccess : ¬query.ReportsSuccess fields) :
    query.settle fields =
      .error (.unexpectedStatus query.endpoint query.success (query.textOf fields "status")) := by
  cases query with
  | reject _ =>
    obtain ⟨hsome, hother⟩ := not_or.mp hsuccess
    rw [Query.settle, if_neg hsome]
    exact expectSuccess_of_ne hother
  | submit _ => rw [Query.settle, expectSuccess_of_ne hsuccess]; rfl
  | accept _ => rw [Query.settle, expectSuccess_of_ne hsuccess]; rfl
  | retract _ => exact expectSuccess_of_ne hsuccess
  | statusOf _ => exact absurd trivial hsuccess
  | updatesOf _ => exact absurd trivial hsuccess

lemma settle_of_incomplete (hsuccess : query.ReportsSuccess fields) {front back : List String}
    {name : String} (hrequired : query.required = front ++ name :: back)
    (hfront : ∀ earlier ∈ front, query.textOf fields earlier ≠ none)
    (hmissing : query.textOf fields name = none) :
    query.settle fields = .error (.missingField query.endpoint name) := by
  cases query with
  | reject _ => simp [Query.required] at hrequired
  | retract _ => simp [Query.required] at hrequired
  | updatesOf _ => simp [Query.required] at hrequired
  | statusOf _ =>
    cases front with
    | nil => cases hrequired; exact requireField_of_none hmissing
    | cons _ front => simp [Query.required] at hrequired
  | accept _ =>
    cases front with
    | nil =>
      cases hrequired
      rw [Query.settle, expectSuccess_of_eq hsuccess, requireField_of_none hmissing]
      rfl
    | cons _ front => simp [Query.required] at hrequired
  | submit _ =>
    rw [Query.settle, expectSuccess_of_eq hsuccess]
    obtain _ | ⟨first, _ | ⟨second, _ | ⟨third, front⟩⟩⟩ := front
    · cases hrequired
      rw [requireField_of_none hmissing]
      rfl
    · cases hrequired
      obtain ⟨updateId, hid⟩ := requireField_of_ne_none (hfront "update_id" (by simp))
      rw [hid, requireField_of_none hmissing]
      rfl
    · cases hrequired
      obtain ⟨updateId, hid⟩ := requireField_of_ne_none (hfront "update_id" (by simp))
      obtain ⟨code, hcode⟩ := requireField_of_ne_none (hfront "access_code" (by simp))
      rw [hid, hcode, requireField_of_none hmissing]
      rfl
    · simp [Query.required] at hrequired

lemma settle_of_consistsOf (hsuccess : query.ReportsSuccess fields) {answer : query.Answer}
    (hanswer : query.ConsistsOf answer fields) : query.settle fields = .ok answer := by
  cases query with
  | reject _ =>
    rw [Query.settle]
    split
    next => rfl
    next hstatus => exact expectSuccess_of_eq (hsuccess.resolve_left hstatus)
  | retract _ => exact expectSuccess_of_eq hsuccess
  | updatesOf _ => exact congrArg _ hanswer
  | statusOf _ => exact requireField_of_some hanswer
  | accept _ =>
    obtain ⟨newText, oldText⟩ := answer
    obtain ⟨htext, rfl⟩ := hanswer
    rw [Query.settle, expectSuccess_of_eq hsuccess, requireField_of_some htext]
    rfl
  | submit _ =>
    obtain ⟨hid, hcode, htime⟩ := hanswer
    rw [Query.settle, expectSuccess_of_eq hsuccess, requireField_of_some hid,
      requireField_of_some hcode, requireField_of_some htime]
    rfl

lemma conclude_of_verdict {outcome : Except Error query.Answer}
    (hverdict : Verdict query status body outcome) : query.conclude status body = outcome := by
  unfold Query.conclude
  cases hverdict with
  | refused hstatus => rw [if_neg (mt isSuccess_iff.mp hstatus)]
  | undecodable hstatus hbody =>
    rw [if_pos (isSuccess_iff.mpr hstatus), decode_of_undecodable hbody]
  | unsuccessful hstatus hbody hsuccess =>
    rw [if_pos (isSuccess_iff.mpr hstatus), decode_of_decodes hbody,
      settle_of_unsuccessful hsuccess]
  | incomplete hstatus hbody hsuccess hrequired hfront hmissing =>
    rw [if_pos (isSuccess_iff.mpr hstatus), decode_of_decodes hbody,
      settle_of_incomplete hsuccess hrequired hfront hmissing]
  | answered hstatus hbody hsuccess hpresent hanswer =>
    rw [if_pos (isSuccess_iff.mpr hstatus), decode_of_decodes hbody,
      settle_of_consistsOf hsuccess hanswer]

/-- **Verdicts are what is concluded.**  A response is taken for what its verdict says, and it has
no other verdict. -/
theorem conclude_eq_iff_verdict {outcome : Except Error query.Answer} :
    query.conclude status body = outcome ↔ Verdict query status body outcome := by
  refine ⟨?_, conclude_of_verdict⟩
  rintro rfl
  obtain ⟨outcome, hverdict⟩ := exists_verdict query status body
  rwa [conclude_of_verdict hverdict]

/-- Of the verdicts only that on a body that cannot be read is a failure in transport. -/
lemma Verdict.isTransport_iff {error : Error}
    (hverdict : Verdict query status body (.error error)) :
    error.isTransport = true ↔
      (200 ≤ status ∧ status ≤ 299) ∧ ∀ fields, ¬query.Decodes body fields := by
  generalize houtcome : Except.error error = outcome at hverdict
  cases hverdict with
  | refused hstatus => cases houtcome; simp [Error.isTransport, hstatus]
  | undecodable hstatus hbody => cases houtcome; simpa [Error.isTransport, hstatus] using hbody
  | unsuccessful hstatus hbody =>
    cases houtcome
    simpa [Error.isTransport] using fun _ _ => ⟨_, hbody⟩
  | incomplete hstatus hbody =>
    cases houtcome
    simpa [Error.isTransport] using fun _ _ => ⟨_, hbody⟩
  | answered => cases houtcome

end

/-! ## Calls -/

/-- A request that cannot be built is a failure in transport. -/
lemma isTransport_of_request {client : Client} {call : Call} {error : Error}
    (hrequest : client.request call = .error error) : error.isTransport = true := by
  simp only [Client.request] at hrequest
  repeat' split at hrequest
  all_goals cases hrequest
  all_goals rfl

/-- The response to a request that was sent. -/
def Responds (client : Client) (link : Link) (call : Call) (reply : Reply) (status : Nat)
    (body : Bytes) : Prop :=
  (∃ request, client.request call = .ok request) ∧ link = .up ∧ reply = .response status body

/-- Without a response a call fails in transport. -/
lemma isTransport_of_unanswered {client : Client} {link : Link} {call : Call} {reply : Reply}
    (hunanswered : ∀ status body, ¬Responds client link call reply status body) :
    ∃ error, (exchange client link call reply).result = .error error ∧
      error.isTransport = true := by
  unfold exchange
  cases hrequest : client.request call with
  | error error => exact ⟨error, rfl, isTransport_of_request hrequest⟩
  | ok request =>
    cases link with
    | down => exact ⟨_, rfl, rfl⟩
    | up =>
      cases reply with
      | response status body =>
        exact absurd ⟨⟨request, hrequest⟩, rfl, rfl⟩ (hunanswered status body)
      | drop => exact ⟨_, rfl, rfl⟩
      | panic message => exact ⟨_, rfl, rfl⟩

/-- **A call is answered as the backend has stated.**  For every endpoint and every response to a
request that was sent, whatever its status and its body are, the call comes to the verdict on the
response, and there is always one: it is answered only if the status is in the two hundreds, the
body is a record of the endpoint's shape, reports the success of the endpoint and has the required
fields, and then with these fields; its error tells the first of these that fails, and of the
required fields the first that is missing.  The error counts as one of transport exactly if there
was no response, or one of success that cannot be decoded. -/
theorem answered_as_stated (client : Client) (link : Link) (call : Call) (reply : Reply) :
    (∀ status body, Responds client link call reply status body →
      ∀ outcome, (exchange client link call reply).result = outcome ↔
        Verdict call.query status body outcome) ∧
    (∀ error, (exchange client link call reply).result = .error error →
      (error.isTransport = true ↔ ∀ status body, Responds client link call reply status body →
        (200 ≤ status ∧ status ≤ 299) ∧ ∀ fields, ¬call.query.Decodes body fields)) ∧
    ((∀ status body, ¬Responds client link call reply status body) →
      ∃ error, (exchange client link call reply).result = .error error) := by
  have hresponse : ∀ {status body}, Responds client link call reply status body →
      (exchange client link call reply).result = call.query.conclude status body := by
    rintro status body ⟨⟨request, hrequest⟩, rfl, rfl⟩
    rw [exchange, hrequest]
    rfl
  refine ⟨fun status body hresponds outcome => ?_, fun error hresult => ?_, fun hunanswered => ?_⟩
  · rw [hresponse hresponds, conclude_eq_iff_verdict]
  · by_cases hunanswered : ∀ status body, ¬Responds client link call reply status body
    · obtain ⟨other, hother, htransport⟩ := isTransport_of_unanswered hunanswered
      obtain rfl : other = error := Except.error.inj (hother.symm.trans hresult)
      exact iff_of_true htransport fun status body hresponds =>
        absurd hresponds (hunanswered status body)
    · obtain ⟨status, hsome⟩ := not_forall.mp hunanswered
      obtain ⟨body, hresponds⟩ := not_forall_not.mp hsome
      rw [hresponse hresponds, conclude_eq_iff_verdict] at hresult
      rw [hresult.isTransport_iff]
      constructor
      · rintro hundecodable other same ⟨-, -, hreply⟩
        obtain ⟨-, -, rfl⟩ := hresponds
        cases hreply
        exact hundecodable
      · exact fun hall => hall status body hresponds
  · obtain ⟨error, hresult, -⟩ := isTransport_of_unanswered hunanswered
    exact ⟨error, hresult⟩

/-! ## A sample -/

/-- A submission of a judge. -/
def judged : Submission := ⟨"A1", "ls -a", "shows hidden files", none⟩

/-- The submission is reported as saved, yet without the access code and the time. -/
def partlySaved : Bytes :=
  Text.encode "\x7b\"status\": \"ANNOTATION_UPDATE_SAVE_SUCCESS\", \"update_id\": 8\x7d"

/-- Of two fields that are missing the error names the first. -/
theorem partly_saved_not_answered :
    Responds (.ofUrl "http://backend.test") .up ⟨"judge", .submit judged⟩
        (.response 200 partlySaved) 200 partlySaved ∧
      (exchange (.ofUrl "http://backend.test") .up ⟨"judge", .submit judged⟩
        (.response 200 partlySaved)).result =
          .error (.missingField "submit_annotation_update" "access_code") := by
  have hrequest : (Client.ofUrl "http://backend.test").request ⟨"judge", .submit judged⟩ =
      .ok ⟨⟨"http", some ⟨⟨"", ""⟩, "backend.test", none⟩, "/submit_annotation_update",
        some "annotation_id=A1&update=ls+-a&comment=shows+hidden+files", none⟩,
        "access_code=judge"⟩ := by decide +kernel
  have hbody : (Query.submit judged).Decodes partlySaved
      [("status", some "ANNOTATION_UPDATE_SAVE_SUCCESS"), ("update_id", some "8")] := by
    show Json.readDocument savedShape.read partlySaved = _
    decide +kernel
  have hrequired : (Query.submit judged).required =
      ["update_id"] ++ "access_code" :: ["submission_time"] := rfl
  have hmissing : Verdict (.submit judged) 200 partlySaved
      (.error (.missingField "submit_annotation_update" "access_code")) :=
    .incomplete (by decide) hbody rfl hrequired (by decide) rfl
  obtain ⟨hverdict, -, -⟩ := answered_as_stated (.ofUrl "http://backend.test") .up
    ⟨"judge", .submit judged⟩ (.response 200 partlySaved)
  have hresponds : Responds (.ofUrl "http://backend.test") .up ⟨"judge", .submit judged⟩
      (.response 200 partlySaved) 200 partlySaved := ⟨⟨_, hrequest⟩, rfl, rfl⟩
  exact ⟨hresponds, (hverdict 200 partlySaved hresponds _).mpr hmissing⟩

end AnnotationReview.Backend
