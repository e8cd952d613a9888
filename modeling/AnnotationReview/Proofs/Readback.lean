import AnnotationReview.Proofs.Isolation
import AnnotationReview.Proofs.Service

/-!
# Answers and reads

A request that succeeds is answered with a snapshot, and so is a request that only asks what is
shown.  Here the two are shown to agree: what is told of a pair is what is told to whoever asks next
(`Shows`), and asking does nothing but note the time, on no pair of the server (`Untouched`).  Nor
do requests that are turned away before they come to a view.
-/

namespace AnnotationReview.Host

open Json (Value)
open Backend.Dialogue (Exchange Path)
open Server Server.Handling

/-! ## What is shown next -/

/-- Whoever asks for a pair next is told this snapshot of it, and its markup. -/
structure Shows (server : Server) (key : SlotKey) (snapshot : Value) : Prop where
  data {asking : Request} (hasks : asking.Asks key .mounted) (later : Nat) :
    ∃ told after, server.handle later asking = .done (told, after) ∧ told.status = 200 ∧
      told.body = .json (.object [("data", snapshot)])
  markup {asking : Request} (hasks : asking.Asks key .markup) (later : Nat) :
    ∃ told after text, server.handle later asking = .done (told, after) ∧ told.status = 200 ∧
      told.body = .html text ∧ snapshot.member? "html" = some (.string text)

section

variable {now : Nat} {request : Request} {key : SlotKey} {server next : Server}
  {registry after : Registry} {exchanges : List Exchange} {response : Response}
  {answered : Except Failure Response} {snapshot : Value} {view : View} {viewer : String}

lemma shows_of_shown (hshown : server.registry.shown? key = some view) :
    Shows server key view.snapshot where
  data hasks later := handle_of_asks hasks hshown later
  markup hasks later := by
    obtain ⟨told, after, hhandle, hstatus, hbody⟩ := handle_of_asks_markup hasks hshown later
    exact ⟨told, after, view.render, hhandle, hstatus, hbody, rfl⟩

/-- No error of a review is answered as if there were no viewer, or as a success. -/
lemma status_of_review (error : Review.Error) :
    (Error.review error).answer.status ∈ [400, 403, 404, 409, 500, 502] := by
  cases error with
  | domain error => cases error <;> simp [Error.answer]
  | backend error => cases htransport : error.isTransport <;> simp [Error.answer, htransport]

/-- A failure is not answered as a success. -/
lemma status_of_failure (failure : Failure) : failure.response.status ∉ [200, 201] := by
  cases failure with
  | error error =>
    cases error with
    | review error =>
      intro hfine
      have hstatus := status_of_review error
      simp only [Failure.response, Response.ofError, Response.withBody, List.mem_cons,
        List.not_mem_nil, or_false] at hfine hstatus
      omega
    | unauthorized => simp [Failure.response, Response.ofError, Response.withBody, Error.answer]
    | badRequest => simp [Failure.response, Response.ofError, Response.withBody, Error.answer]
  | rejection rejection =>
    cases rejection <;> simp [Failure.response, Response.withBody, Rejection.status]

lemma snapshot?_of_failure (failure : Failure) : failure.response.snapshot? = none := by
  cases failure <;> rfl

/-- A request is answered with the snapshot of what is shown afterwards, or with none. -/
lemma told_of_served (hserved : Served now request key registry exchanges answered after) :
    (∃ view, after.shown? key = some view ∧ (respond answered).snapshot? = some view.snapshot) ∨
      (respond answered).snapshot? = none ∧
        ((respond answered).status ∉ [200, 201] ∨
          ∀ value, (respond answered).body ≠ .json value) := by
  have hfailed : ∀ failure, answered = .error failure →
      (respond answered).snapshot? = none ∧ ((respond answered).status ∉ [200, 201] ∨
        ∀ value, (respond answered).body ≠ .json value) := by
    rintro failure rfl
    exact ⟨snapshot?_of_failure failure, .inl (status_of_failure failure)⟩
  cases hserved with
  | unreadable | blank | mistargeted | missing => exact .inr (hfailed _ rfl)
  | unmounted => exact .inr ⟨rfl, .inr nofun⟩
  | @shown slot view hfind hview =>
    exact .inl ⟨view, Registry.shown?_of_find? hfind (by simpa using hview), by simp [respond]⟩
  | written => exact .inr ⟨rfl, .inr nofun⟩
  | @mounted _ slot _ view _ _ _ hfind hview =>
    exact .inl ⟨view, Registry.shown?_of_find? hfind hview, by simp [respond]⟩
  | @commanded slot view next _ _ result _ _ hfind hview _ hanswers =>
    cases result with
    | ok value =>
      obtain ⟨data, rfl, hdata⟩ := hanswers
      have htouched : (registry.touch now slot).view? slot = some view := by simpa using hview
      exact .inl ⟨next, Registry.shown?_of_find? hfind (Registry.view?_setView_self htouched next),
        by simpa [respond] using hdata⟩
    | error error => exact .inr (hfailed _ hanswers)

/-- What a request is answered with is what is shown afterwards. -/
lemma told_of_handled (hhandled : Handled now request key server exchanges response next) :
    (∃ view, next.registry.shown? key = some view ∧ response.snapshot? = some view.snapshot) ∨
      response.snapshot? = none ∧
        (response.status ∉ [200, 201] ∨ ∀ value, response.body ≠ .json value) := by
  cases hhandled with
  | bypassed hbody => exact .inr ⟨by simp [Response.snapshot?, hbody], .inr (by simp [hbody])⟩
  | @served _ answered after hserved =>
    by_cases hhead : request.method = "HEAD"
    · have hbody : ((respond answered).sent server.settings request).body = .empty := by
        rw [Response.body_sent, if_pos hhead]
      exact .inr ⟨by simp [Response.snapshot?, hbody], .inr (by simp [hbody])⟩
    · have hbody : ((respond answered).sent server.settings request).body =
          (respond answered).body := by
        rw [Response.body_sent, if_neg hhead]
      simpa [Response.snapshot?, hbody] using told_of_served hserved

/-! ## What is left alone -/

/-- The request is turned away before its annotation is looked up. -/
def Request.TurnedAway (request : Request) : Prop :=
  request.MountsBlank ∨ ∃ name, request.Mistargets name

/-- Nothing is done to a server but that the times of look-ups are noted. -/
structure Untouched (server next : Server) : Prop where
  settings : next.settings = server.settings
  mounted : next.registry.mounted = server.registry.mounted
  views : next.registry.slots.map Slot.view = server.registry.slots.map Slot.view

lemma Untouched.refl (server : Server) : Untouched server server := ⟨rfl, rfl, rfl⟩

/-- The request asks for nothing to be done, or it is turned away before it comes to a view. -/
inductive Request.Idle (request : Request) (server : Server) (response : Response) : Prop where
  | reads (hreads : request.Reads)
  | unauthorized (hstatus : response.status = 401)
  | missing (hstatus : response.status = 404)
      (hmissing : ∀ key, request.address? = some key → server.registry.find? key = none)
  | turnedAway (haway : request.TurnedAway)

lemma views_touch (registry : Registry) (now : Nat) (slot : SlotId) :
    (registry.touch now slot).slots.map Slot.view = registry.slots.map Slot.view := by
  refine List.ext_getElem? fun other => ?_
  rw [List.getElem?_map, List.getElem?_map]
  exact Registry.view?_touch registry now slot other

lemma untouched_touch (server : Server) (now : Nat) (slot : SlotId) :
    Untouched server { server with registry := server.registry.touch now slot } :=
  ⟨rfl, rfl, views_touch server.registry now slot⟩

/-- What only reads, or finds nothing mounted, leaves the server alone. -/
lemma untouched_of_served
    (hserved : Served now request key server.registry exchanges answered after)
    (hidle : request.Reads ∨ (respond answered).status = 401 ∨
      (respond answered).status = 404 ∧ server.registry.find? key = none) :
    exchanges = [] ∧ Untouched server { server with registry := after } := by
  cases hserved with
  | unreadable | blank | mistargeted | missing => exact ⟨rfl, .refl server⟩
  | shown | written => exact ⟨rfl, untouched_touch server now _⟩
  | unmounted hwrites | mounted hwrites =>
    obtain hreads | hstatus | ⟨hstatus, -⟩ := hidle
    · exact absurd hreads hwrites
    · cases hstatus
    · cases hstatus
  | @commanded _ _ _ _ _ result _ hwrites hfind _ _ hanswers =>
    obtain hreads | hstatus | ⟨-, hmissing⟩ := hidle
    · exact absurd hreads hwrites
    · cases result with
      | ok value =>
        obtain ⟨data, rfl, -⟩ := hanswers
        cases hstatus
      | error error =>
        obtain rfl : answered = _ := hanswers
        have hreview := status_of_review error
        have hsame : (Error.review error).answer.status = 401 := hstatus
        simp [hsame] at hreview
    · cases hmissing.symm.trans hfind

lemma extract_ok_bind {α β : Type} (value : α) (f : α → Handling β) :
    (extract (.ok value) >>= f) = f value := rfl

lemma fail_bind {α β : Type} (failure : Failure) (f : α → Handling β) :
    (fail failure >>= f) = fail failure := rfl

/-- A request that mounts an annotation without a name is answered at once. -/
lemma handle_of_blank (hblank : request.MountsBlank) (hviewer : request.viewer = .ok viewer)
    (now : Nat) (server : Server) : server.handle now request =
      .done ((respond (.error (.error (.badRequest "annotation_id must not be empty")))).sent
        server.settings request, server) := by
  obtain ⟨hresource, hmethod, data, hdata, hempty⟩ := hblank
  have hanswer : answer now request .annotations "POST" viewer =
      extract (request.record MountData.read) >>= fun data => mount now viewer data := rfl
  have hmount : mount now viewer data =
      fail (.error (.badRequest "annotation_id must not be empty")) := if_pos hempty
  rw [handle_eq hresource (by simp [hmethod, Resource.methods]) (by simp [hmethod]) (by decide)
    hviewer, hmethod, hanswer, hdata]
  rw [extract_ok_bind, hmount]
  rfl

/-- So is a request for an edit of an unknown target. -/
lemma handle_of_mistargets {name : String} (hname : request.Mistargets name)
    (haddress : request.address? = some key) (now : Nat) (server : Server) :
    server.handle now request = .done ((respond (.error (.error (.review (.domain (.validation
      ("Invalid edit target '" ++ name ++ "'. Must be one of: nl, cmd"))))))).sent
        server.settings request, server) := by
  obtain ⟨⟨id, hresource⟩, hmethod, ⟨data, hdata, htarget⟩, hnone⟩ := hname
  obtain ⟨_, viewer, hsame, hviewer, hkey⟩ := address_of_request haddress
  obtain rfl := Option.some.inj (hresource.symm.trans hsame)
  obtain ⟨hsegment, -⟩ := segment_of_address hkey
  have hanswer : answer now request (.edit id) "POST" viewer =
      extract (segmentText id) >>= fun id =>
        extract (request.record OpenEditData.read) >>= fun data =>
          rule data.chosen >>= fun target => lookUp now ⟨viewer, id⟩ >>= fun slot =>
            perform slot (Review.openEditPanel target
              (data.placeholder?.getD CommentPurpose.edit.hint)) >>= fun _ => snapshot slot := rfl
  have hchosen : data.chosen = .error (.validation
      ("Invalid edit target '" ++ name ++ "'. Must be one of: nl, cmd")) := by
    rw [OpenEditData.chosen, htarget]
    exact parse_of_none hnone
  have hrule : (rule data.chosen : Handling EditTarget) = fail (.error (.review (.domain
      (.validation ("Invalid edit target '" ++ name ++ "'. Must be one of: nl, cmd"))))) := by
    rw [hchosen]
    rfl
  rw [handle_eq hresource (by simp [hmethod, Resource.methods]) (by simp [hmethod]) (by simp)
    hviewer, hmethod, hanswer, hsegment, hdata]
  rw [extract_ok_bind, extract_ok_bind, hrule, fail_bind]
  rfl

lemma untouched_of_handled (hhandled : Handled now request key server exchanges response next)
    (hidle : request.Reads ∨ response.status = 401 ∨
      response.status = 404 ∧ server.registry.find? key = none) :
    exchanges = [] ∧ Untouched server next := by
  cases hhandled with
  | bypassed => exact ⟨rfl, .refl server⟩
  | served hserved =>
    simp only [Response.status_sent] at hidle
    exact untouched_of_served hserved hidle

/-- What is turned away before it comes to a view is answered as a bad request. -/
lemma status_of_turnedAway (haddress : request.address? = some key)
    (haway : request.TurnedAway)
    (hpath : Path (server.handle now request) exchanges (response, next)) :
    response.status = 400 ∧ exchanges = [] ∧ next = server := by
  obtain hblank | ⟨name, hname⟩ := haway
  · obtain ⟨_, viewer, -, hviewer, -⟩ := address_of_request haddress
    rw [handle_of_blank hblank hviewer] at hpath
    cases hpath
    exact ⟨Response.status_sent _ _ _, rfl, rfl⟩
  · rw [handle_of_mistargets hname haddress] at hpath
    cases hpath
    exact ⟨Response.status_sent _ _ _, rfl, rfl⟩

/-- **Answers and reads agree.**  Whatever was done to a server before: a request about a pair that
succeeds with data is answered with a snapshot of the pair, and that snapshot is what is told to
whoever asks for the pair next, its markup to whoever asks for the markup.  A request that only
reads, or is turned away for want of a viewer, of a mounted annotation, of a name or of a known
target, puts no calls to the backend and leaves every view and every mount as it was. -/
theorem answers_agree_with_reads (hreachable : Reachable server)
    (hpath : Path (server.handle now request) exchanges (response, next)) :
    (∀ key, request.address? = some key →
      (response.status ∈ [200, 201] → (∃ value, response.body = .json value) →
        ∃ snapshot, response.snapshot? = some snapshot) ∧
      (∀ snapshot, response.snapshot? = some snapshot → Shows next key snapshot) ∧
      (request.TurnedAway → response.status = 400)) ∧
    (request.Idle server response → exchanges = [] ∧ Untouched server next) := by
  cases haddress : request.address? with
  | none =>
    obtain ⟨told, hhandle⟩ := handle_of_unaddressed haddress now server
    rw [hhandle] at hpath
    cases hpath
    exact ⟨nofun, fun _ => ⟨rfl, .refl server⟩⟩
  | some key =>
    have hhandled := handled_of_path (owned_of_reachable hreachable) haddress hpath
    refine ⟨?_, ?_⟩
    · rintro _ ⟨⟩
      refine ⟨?_, ?_, fun haway => (status_of_turnedAway haddress haway hpath).1⟩
      · intro hfine ⟨value, hbody⟩
        obtain ⟨view, -, hsnapshot⟩ | ⟨-, hstatus | hnone⟩ := told_of_handled hhandled
        · exact ⟨_, hsnapshot⟩
        · exact absurd hfine hstatus
        · exact absurd hbody (hnone value)
      · intro snapshot hsnapshot
        obtain ⟨view, hshown, htold⟩ | ⟨hnone, -⟩ := told_of_handled hhandled
        · obtain rfl := Option.some.inj (htold.symm.trans hsnapshot)
          exact shows_of_shown hshown
        · cases hnone.symm.trans hsnapshot
    · rintro (hreads | hstatus | ⟨hstatus, hmissing⟩ | haway)
      · exact untouched_of_handled hhandled (.inl hreads)
      · exact untouched_of_handled hhandled (.inr (.inl hstatus))
      · exact untouched_of_handled hhandled (.inr (.inr ⟨hstatus, hmissing key haddress⟩))
      · obtain ⟨-, hnothing, rfl⟩ := status_of_turnedAway haddress haway hpath
        exact ⟨hnothing, .refl _⟩

end

/-! The author of an annotation has it mounted, with an open update of a judge. -/

/-- The annotation under review is mounted. -/
def reviewed : Server :=
  ⟨plainSettings, ⟨[⟨Review.reviewing, 1⟩], [(authorPair, 0)]⟩⟩

lemma reachable_reviewed : Reachable reviewed := by
  have hmount : Path ((Server.mk plainSettings .empty).registry.mount 1 authorPair "list files")
      [⟨⟨"author", .updatesOf "A1"⟩, .answered [⟨"U1", "author", "judge", "t1", "list all files",
          "lists hidden files too"⟩]⟩,
        ⟨⟨"author", .statusOf "U1"⟩, .answered "open"⟩] (0, reviewed.registry) :=
    .ask _ (.askAll Review.together_reviewing (.done _))
  exact .occurred (.started plainSettings) (.mounted hmount)

/-- A request of the author. -/
def authorRequest (method path body : String) : Request :=
  ⟨method, path, [("x-access-code", "author"), ("content-type", "application/json")], body⟩

lemma viewer_authorRequest (method path body : String) :
    (authorRequest method path body).viewer = .ok "author" := by
  have hnone : (authorRequest "" "" "").viewer = .ok "author" := by decide +kernel
  exact hnone

lemma segment_sample : segmentText "A1" = .ok "A1" := by decide +kernel

lemma key_sample : segmentKey? "author" "A1" = some authorPair := by
  rw [segmentKey?, segment_sample]
  rfl

lemma address_of_resource {request : Request} {resource : Resource} {viewer : String}
    {key : SlotKey} (hresource : Resource.ofPath? request.path = some resource)
    (hviewer : request.viewer = .ok viewer) (hkey : resource.address? request viewer = some key) :
    request.address? = some key := by
  rw [Request.address?, hresource, hviewer]
  exact hkey

/-- The author looks at the annotation. -/
def looking : Request := authorRequest "GET" "/api/v1/annotations/A1" ""

lemma resource_looking : Resource.ofPath? looking.path = some (.mounted "A1") := by decide +kernel

lemma asks_looking : looking.Asks authorPair .mounted :=
  ⟨rfl, address_of_resource resource_looking (viewer_authorRequest _ _ _) key_sample, "A1",
    resource_looking⟩

/-- The author accepts the update. -/
def accepting : Request := authorRequest "POST" "/api/v1/annotations/A1/entries/0/accept" ""

lemma resource_accepting : Resource.ofPath? accepting.path = some (.entry "A1" "0" .accept) := by
  decide +kernel

lemma address_accepting : accepting.address? = some authorPair :=
  address_of_resource resource_accepting (viewer_authorRequest _ _ _) key_sample

/-- What the author is answered is carried out on the view. -/
lemma handle_accepting : reviewed.handle 2 accepting =
    Backend.Dialogue.bind ((perform 0 (Review.accept 0) >>= fun _ => snapshot 0 : Handling Response)
      (reviewed.registry.touch 2 0)) fun told => .done
        ((respond told.1).sent plainSettings accepting, { reviewed with registry := told.2 }) := by
  have hnames : entryNames "A1" "0" = .ok ("A1", 0) := by decide +kernel
  have hanswer : answer 2 accepting (.entry "A1" "0" .accept) accepting.method "author" =
      extract (entryNames "A1" "0") >>= fun names => lookUp 2 ⟨"author", names.1⟩ >>= fun slot =>
        perform slot (Review.accept names.2) >>= fun _ => snapshot slot := rfl
  rw [handle_eq resource_accepting (by decide) (by decide) (by decide)
    (viewer_authorRequest _ _ _), hanswer, hnames]
  rfl

/-- The update is accepted. -/
def acceptedView : View :=
  { View.fresh "A1" "author" "list all files" with
    previousText := some "list files"
    thread := ⟨[⟨0, ⟨"U1", "judge", "t1", "list all files", "lists hidden files too", .judger⟩,
      some .accepted, true⟩], 1⟩ }

/-- What the author is answered when the backend has accepted the update. -/
def acceptedAnswer : Response :=
  (respond (.ok (.data 200 acceptedView.snapshot))).sent plainSettings accepting

/-- What the server is left as. -/
def acceptedServer : Server :=
  { reviewed with registry := (reviewed.registry.touch 2 0).setView 0 acceptedView }

/-- Whoever looks at the annotation next is told what the author was told of the update that was
accepted. -/
theorem accepted_update_read_back :
    Path (reviewed.handle 2 accepting)
      [⟨⟨"author", .accept "U1"⟩, .answered ⟨"list all files", some "list files"⟩⟩]
      (acceptedAnswer, acceptedServer) ∧
    acceptedAnswer.snapshot? = some acceptedView.snapshot ∧
    ∃ told after, acceptedServer.handle 3 looking = .done (told, after) ∧
      told.body = .json (.object [("data", acceptedView.snapshot)]) := by
  have hpath : Path (reviewed.handle 2 accepting)
      [⟨⟨"author", .accept "U1"⟩, .answered ⟨"list all files", some "list files"⟩⟩]
      (acceptedAnswer, acceptedServer) := by
    rw [handle_accepting]
    exact .ask _ (.done _)
  have hsnapshot : acceptedAnswer.snapshot? = some acceptedView.snapshot :=
    snapshot?_data 200 acceptedView.snapshot
  have hagrees := answers_agree_with_reads reachable_reviewed hpath
  obtain ⟨-, hshows, -⟩ := hagrees.1 authorPair address_accepting
  obtain ⟨told, after, hhandle, -, hbody⟩ :=
    (hshows acceptedView.snapshot hsnapshot).data asks_looking 3
  exact ⟨hpath, hsnapshot, told, after, hhandle, hbody⟩

end AnnotationReview.Host
