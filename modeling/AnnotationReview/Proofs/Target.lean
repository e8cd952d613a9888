import AnnotationReview.Backend.Client
import AnnotationReview.Proofs.Url.Below

/-!
# What the target of a request tells

A request asks the backend by its target alone: a path, whose last segment names the endpoint, and
a query behind the first question mark.  Whatever characters the parameters hold, the backend reads
just these parameters there and in their order (`target_tells_query`), so no value of one can pass
for another, and different questions have different targets.

The root of the backend may be any URL of the web without query and fragment.  Its path ends up
before the name of the endpoint, and slashes at its end are dropped.
-/

namespace AnnotationReview.Backend

variable {base : String} {root : Url} {call : Call} {query query' : Query} {target : String}

/-! ## Reading a target -/

/-- The path of a target and the query behind its first question mark. -/
def divide (target : String) : List Char × List Char :=
  (Text.splitFirst? '?' target.toList).getD (target.toList, [])

/-- The parameters in the query of a target. -/
def parametersOf? (target : String) : Option (List Url.Parameter) :=
  Url.readParameters (divide target).2

/-- The last segment of the path of a target. -/
def endpointOf? (target : String) : Option (List Char) :=
  (Text.splitOn '/' (divide target).1).getLast?

/-- A target tells a question: its endpoint and its parameters. -/
structure Tells (target : String) (query : Query) : Prop where
  endpoint : endpointOf? target = some query.endpoint.toList
  parameters : parametersOf? target = some query.parameters

/-- A question is told by its endpoint and its parameters. -/
lemma Query.eq_of_told (hendpoint : query.endpoint = query'.endpoint)
    (hparameters : query.parameters = query'.parameters) : query = query' := by
  cases query <;> cases query' <;> simp [Query.endpoint] at hendpoint
  case submit.submit submission submission' =>
    obtain ⟨annotationId, text, comment, answered?⟩ := submission
    obtain ⟨annotationId', text', comment', answered?'⟩ := submission'
    cases answered? <;> cases answered?' <;> simp_all [Query.parameters]
  all_goals simpa [Query.parameters] using hparameters

/-- A target tells no two questions. -/
lemma Tells.unique (htells : Tells target query) (htells' : Tells target query') :
    query = query' := by
  apply Query.eq_of_told
  · exact String.toList_injective (Option.some.inj (htells.endpoint.symm.trans htells'.endpoint))
  · exact Option.some.inj (htells.parameters.symm.trans htells'.parameters)

/-! ## Writing a target -/

/-- The name of an endpoint is plain. -/
lemma isName_endpoint (query : Query) : Url.IsName query.endpoint.toList := by
  have hfilled : query.endpoint.toList ≠ [] := by cases query <;> simp [Query.endpoint]
  have hnames : (["reject_update", "submit_annotation_update", "get_update_status",
      "accept_update", "retract_update", "get_relevant_updates"].all fun name =>
      name.toList.all fun c => decide (Url.IsNameChar c)) = true := by decide +kernel
  have hplain := List.all_eq_true.mp hnames query.endpoint
    (by cases query <;> simp [Query.endpoint])
  exact ⟨hfilled, fun c hc => of_decide_eq_true (List.all_eq_true.mp hplain c hc)⟩

/-- Every question has parameters. -/
lemma parameters_ne_nil (query : Query) : query.parameters ≠ [] := by
  cases query <;> simp [Query.parameters]

/-- The target of a URL below a root tells the question that its parameters were added for. -/
lemma tells_target (query : Query) (kind : Url.SchemeKind) (path : List Char) {url : Url}
    (hpath : url.path = Url.hostPath kind (path ++ '/' :: query.endpoint.toList))
    (hquery : url.query? = none) :
    Tells (url.withoutUser.addParameters query.parameters).target query := by
  obtain ⟨before, hbefore, hquestion⟩ :=
    Url.hostPath_name kind (isName_endpoint query) path
  have htarget : (url.withoutUser.addParameters query.parameters).target.toList =
      (before ++ '/' :: query.endpoint.toList) ++
        '?' :: Url.writeParameters query.parameters := by
    have hsome : query.parameters.isEmpty = false := by
      simpa using parameters_ne_nil query
    simp only [Url.addParameters, hsome, Bool.false_eq_true, if_false, Url.withoutUser, hquery,
      Url.target, hpath, String.toList_append, hbefore, String.toList_ofList]
    simp
  have hnone : '?' ∉ before ++ '/' :: query.endpoint.toList := by
    simp [hquestion, (isName_endpoint query).notMem (c := '?') (by decide)]
  have hdivide : divide (url.withoutUser.addParameters query.parameters).target =
      (before ++ '/' :: query.endpoint.toList, Url.writeParameters query.parameters) := by
    rw [divide, htarget, Text.splitFirst?_append hnone]
    rfl
  constructor
  · have hslash : '/' ∉ query.endpoint.toList := (isName_endpoint query).notMem (by decide)
    rw [endpointOf?, hdivide, Text.splitOn_append, Text.splitOn_of_not_mem hslash,
      List.getLast?_concat]
  · rw [parametersOf?, hdivide, Url.readParameters_writeParameters]

/-! ## Requests -/

/-- Slashes behind the text of a root. -/
def slashes (n : Nat) : String := String.ofList (List.replicate n '/')

lemma dropTrailingSlashes_append (base : String) (n : Nat) :
    dropTrailingSlashes (base ++ slashes n) = dropTrailingSlashes base := by
  have hslashes : ∀ c ∈ List.replicate n '/', (c == '/') = true := fun c hc => by
    rw [List.eq_of_mem_replicate hc]
    rfl
  rw [dropTrailingSlashes, dropTrailingSlashes, String.toList_append, slashes,
    String.toList_ofList, List.reverse_append, List.reverse_replicate,
    List.dropWhile_append_of_pos hslashes]

lemma exists_dropTrailingSlashes (base : String) :
    ∃ n, base.toList = (dropTrailingSlashes base).toList ++ List.replicate n '/' := by
  have hslashes : base.toList.rtakeWhile (· == '/') =
      List.replicate (base.toList.rtakeWhile (· == '/')).length '/' := by
    apply List.eq_replicate_of_mem
    intro c hc
    have hslash : (c == '/') = true := List.mem_rtakeWhile_imp (p := (· == '/')) hc
    exact beq_iff_eq.mp hslash
  refine ⟨(base.toList.rtakeWhile (· == '/')).length, ?_⟩
  rw [← hslashes, dropTrailingSlashes, String.toList_ofList]
  exact List.rdropWhile_append_rtakeWhile.symm

/-- What a request for a URL of an endpoint comes to. -/
lemma request_of_parse {client : Client} {url : Url}
    (hparse : Url.parse? (client.endpointText call.query) = some url)
    (hhost : url.hasHost = true) :
    client.request call =
      if Text.isHeaderValue (viewerCookie call.viewer) then
        if (url.withoutUser.addParameters call.query.parameters).isRequestable then
          .ok ⟨url.withoutUser.addParameters call.query.parameters, viewerCookie call.viewer⟩
        else .error (.unbuildable (some
          (url.withoutUser.addParameters call.query.parameters).toText))
      else .error (.unbuildable none) := by
  rw [Client.request, hparse]
  simp only [hhost, Bool.not_true, Bool.false_eq_true, if_false]
  cases Text.isHeaderValue (viewerCookie call.viewer) <;> rfl

lemma exists_of_request_eq_ok {client : Client} {request : Request}
    (hrequest : client.request call = .ok request) :
    ∃ url, Url.parse? (client.endpointText call.query) = some url ∧
      request.url = url.withoutUser.addParameters call.query.parameters := by
  unfold Client.request at hrequest
  split at hrequest
  next => cases hrequest
  next url hparse =>
    refine ⟨url, hparse, ?_⟩
    split at hrequest
    next => cases hrequest
    next =>
      split at hrequest
      next => cases hrequest
      next =>
        dsimp only at hrequest
        split at hrequest
        next => cases hrequest; rfl
        next => cases hrequest

/-- **The target of a request tells what is asked.**  Below a root on the web, every request for a
question has a target that tells its endpoint and its parameters, all of them in their order; the
update that a submission answers is among them just if there is one.  So different questions have
different targets, and slashes behind the root make no difference.

A request can be built whenever the text of the root does not end in a blank, unless the access
code cannot stand in a cookie or no server can be asked for the URL. -/
theorem target_tells_query (hroot : Url.IsRoot base root) :
    (∀ n call, (Client.ofUrl (base ++ slashes n)).request call =
      (Client.ofUrl base).request call) ∧
    (∀ call request, (Client.ofUrl base).request call = .ok request →
      Tells request.url.target call.query) ∧
    (∀ viewer submission request,
      (Client.ofUrl base).request ⟨viewer, .submit submission⟩ = .ok request →
      ∃ parameters, parametersOf? request.url.target = some parameters ∧
        parameters.lookup "update_id" = submission.answered?) ∧
    (∀ call call' request request', (Client.ofUrl base).request call = .ok request →
      (Client.ofUrl base).request call' = .ok request' →
      request.url.target = request'.url.target → call.query = call'.query) ∧
    ((∀ c ∈ base.toList.getLast?, Url.isOuterBlank c = false) → ∀ call, ∃ url : Url,
      Tells url.target call.query ∧
      (Client.ofUrl base).request call =
        if Text.isHeaderValue (viewerCookie call.viewer) then
          if url.isRequestable then .ok ⟨url, viewerCookie call.viewer⟩
          else .error (.unbuildable (some url.toText))
        else .error (.unbuildable none)) := by
  obtain ⟨n, hfront⟩ := exists_dropTrailingSlashes base
  obtain ⟨place?, port, hbelow, hplace⟩ := hroot.below hfront
  have hparse : ∀ query : Query, Url.parse? ((Client.ofUrl base).endpointText query) =
      place?.map fun place =>
        Url.ofPlace root.scheme port (place.1, place.2 ++ '/' :: query.endpoint.toList) := by
    intro query
    have hname := hbelow query.endpoint.toList (isName_endpoint query)
    rwa [String.ofList_toList] at hname
  have htells : ∀ call request, (Client.ofUrl base).request call = .ok request →
      Tells request.url.target call.query := by
    intro call request hrequest
    obtain ⟨url, hurl, hwhole⟩ := exists_of_request_eq_ok hrequest
    rw [hparse] at hurl
    obtain ⟨⟨authority, path⟩, -, rfl⟩ := Option.map_eq_some_iff.mp hurl
    rw [hwhole]
    exact tells_target call.query (.special port) path rfl rfl
  refine ⟨fun n call => ?_, htells, ?_, ?_, ?_⟩
  · rw [Client.ofUrl, dropTrailingSlashes_append]
    rfl
  · intro viewer submission request hrequest
    refine ⟨_, (htells _ request hrequest).parameters, ?_⟩
    cases hanswered : submission.answered? <;>
      simp [Query.parameters, hanswered, List.lookup_cons]
  · intro call call' request request' hrequest hrequest' htarget
    have htells' := htells call' request' hrequest'
    rw [← htarget] at htells'
    exact (htells call request hrequest).unique htells'
  · intro hends call
    obtain ⟨authority, path, hauthority, rfl⟩ := hplace hends
    have hurl := hparse call.query
    rw [Option.map_some] at hurl
    have hhost := hroot.hosted
    simp only [Url.hasHost, Url.host, hauthority] at hhost
    exact ⟨_, tells_target call.query (.special port) path rfl rfl,
      request_of_parse hurl hhost⟩

/-- A reply to an update, with signs in its text that would divide a query. -/
def signedReply : Submission := ⟨"A1", "a&update_id=9 +", "é%", some "7"⟩

/-- The signs are told apart from those of the query, and the root has slashes behind it. -/
theorem signs_told_apart :
    ∃ request, (Client.ofUrl "http://backend.test/api//").request
        ⟨"judge", .submit signedReply⟩ = .ok request ∧
      request.url.target = "/api/submit_annotation_update?annotation_id=A1" ++
        "&update=a%26update_id%3D9+%2B&comment=%C3%A9%25&update_id=7" ∧
      parametersOf? request.url.target = some [("annotation_id", "A1"),
        ("update", "a&update_id=9 +"), ("comment", "é%"), ("update_id", "7")] := by
  have hroot : Url.IsRoot "http://backend.test/api//"
      ⟨"http", some ⟨⟨"", ""⟩, "backend.test", none⟩, "/api//", none, none⟩ :=
    ⟨by decide +kernel, Or.inl rfl, by decide, rfl, rfl⟩
  have hrequest : (Client.ofUrl "http://backend.test/api//").request
      ⟨"judge", .submit signedReply⟩ =
        .ok ⟨⟨"http", some ⟨⟨"", ""⟩, "backend.test", none⟩, "/api/submit_annotation_update",
          some ("annotation_id=A1&update=a%26update_id%3D9+%2B&comment=%C3%A9%25" ++
            "&update_id=7"), none⟩, "access_code=judge"⟩ := by decide +kernel
  obtain ⟨-, htells, -⟩ := target_tells_query hroot
  exact ⟨_, hrequest, by decide +kernel, (htells _ _ hrequest).parameters⟩

end AnnotationReview.Backend
