import AnnotationReview.Backend.Client
import AnnotationReview.Host.Viewer
import AnnotationReview.Proofs.Text.Blank
import AnnotationReview.Proofs.Text.Split

/-!
# Who the backend takes a viewer to be

The host reads a viewer's access code from a cookie or from a header field of its own, and its
client tells the backend who is asking by a cookie.  The code is written into that cookie as it
is, and a cookie header is divided at its semicolons, so the two agree just where the code has no
semicolon (`viewer_read_back_iff`).  A code that came as a cookie never has one; a code that came in
the header field may, and then somebody else is asking (`viewer_with_semicolon_lost`).

Everything else that could stand in the way is excluded by what the host lets through
(`IsAccessCode`): a code is not empty, does not end in a blank, and is readable.
-/

namespace AnnotationReview

namespace Host

open Backend (viewerCookie)

/-! ## Access codes -/

/-- What can be told of an access code from the host having let it through. -/
structure IsAccessCode (code : String) : Prop where
  nonempty : code.toList ≠ []
  /-- It does not end in a blank. -/
  ends : ∀ c ∈ code.toList.getLast?, Text.isBlank c = false
  readable : Text.isReadable code = true

variable {code : String} {pair : List Char} {values : List String} {request : Request}

/-- A pair gives what stands behind its first equals sign. -/
lemma strip_of_pairCode (hpair : pairCode? pair = some code) :
    Text.stripBoth Text.isBlank pair = accessCodeCookie.toList ++ '=' :: code.toList ∧
      code.toList ≠ [] := by
  unfold pairCode? at hpair
  split at hpair
  next name value hsplit =>
    split at hpair
    next hnamed =>
      obtain ⟨hname, hvalue⟩ := hnamed
      cases hpair
      have hwhole := Text.splitFirst?_eq_some hsplit
      have hletters : name = accessCodeCookie.toList := by
        rw [← hname, String.toList_ofList]
      rw [String.toList_ofList, hwhole, hletters]
      exact ⟨rfl, hvalue⟩
    next => cases hpair
  next => cases hpair

/-- A code found in cookies comes from a pair of a readable header. -/
lemma exists_pair_of_cookieCode (hcode : cookieCode? values = some code) :
    ∃ value ∈ values, Text.isReadable value = true ∧
      ∃ pair ∈ Text.splitOn ';' value.toList, pairCode? pair = some code := by
  obtain ⟨pair, hpair, hfound⟩ := List.exists_of_findSome?_eq_some hcode
  obtain ⟨value, hvalue, hpiece⟩ := List.mem_flatMap.mp hpair
  obtain ⟨hmem, hreadable⟩ := List.mem_filter.mp hvalue
  exact ⟨value, hmem, hreadable, pair, hpiece, hfound⟩

/-- The letters of a code found in cookies are letters of a readable header, and none of them is a
semicolon. -/
lemma mem_of_cookieCode {c : Char} (hcode : cookieCode? values = some code)
    (hc : c ∈ code.toList) : Text.isReadableChar c = true ∧ c ≠ ';' := by
  obtain ⟨value, -, hreadable, pair, hpiece, hpair⟩ := exists_pair_of_cookieCode hcode
  obtain ⟨hstrip, -⟩ := strip_of_pairCode hpair
  have hmem : c ∈ pair := by
    apply Text.mem_of_mem_stripBoth (p := Text.isBlank)
    rw [hstrip]
    simp [hc]
  obtain ⟨hvalue, hne⟩ := Text.mem_of_mem_splitOn hpiece hmem
  exact ⟨List.all_eq_true.mp hreadable c hvalue, hne⟩

lemma isAccessCode_of_cookieCode (hcode : cookieCode? values = some code) :
    IsAccessCode code := by
  obtain ⟨value, -, -, pair, -, hpair⟩ := exists_pair_of_cookieCode hcode
  obtain ⟨hstrip, hnonempty⟩ := strip_of_pairCode hpair
  refine ⟨hnonempty, ?_, ?_⟩
  · intro c hlast
    have hend : (Text.stripBoth Text.isBlank pair).getLast? = some c := by
      rw [hstrip, List.getLast?_append_of_ne_nil _ (by simp),
        List.getLast?_cons_of_ne_nil hnonempty]
      exact hlast
    exact Text.not_of_getLast?_stripBoth hend
  · apply List.all_eq_true.mpr
    intro c hc
    exact (mem_of_cookieCode hcode hc).1

lemma isAccessCode_of_headerCode {value : String} (hcode : headerCode? value = some code) :
    IsAccessCode code := by
  unfold headerCode? at hcode
  split at hcode
  next hreadable =>
    simp only at hcode
    split at hcode
    next => cases hcode
    next hsome =>
      cases hcode
      have hletters : (Text.trim value).toList = Text.stripBoth Text.isBlank value.toList := by
        rw [Text.trim, String.toList_ofList]
      refine ⟨?_, ?_, ?_⟩
      · simpa using hsome
      · intro c hlast
        rw [hletters] at hlast
        exact Text.not_of_getLast?_stripBoth hlast
      · apply List.all_eq_true.mpr
        intro c hc
        rw [hletters] at hc
        exact List.all_eq_true.mp hreadable c (Text.mem_of_mem_stripBoth hc)
  next => cases hcode

/-- Whichever way a request names its viewer, the name is an access code. -/
lemma isAccessCode_of_request (hcode : request.accessCode? = some code) : IsAccessCode code := by
  unfold Request.accessCode? at hcode
  split at hcode
  next found hcookie =>
    cases hcode
    exact isAccessCode_of_cookieCode hcookie
  next =>
    obtain ⟨value, -, hheader⟩ := Option.bind_eq_some_iff.mp hcode
    exact isAccessCode_of_headerCode hheader

/-! ## The cookie for the backend -/

lemma toList_viewerCookie (code : String) :
    (viewerCookie code).toList = accessCodeCookie.toList ++ '=' :: code.toList := by
  simp [viewerCookie, accessCodeCookie]

lemma isReadable_viewerCookie (hcode : IsAccessCode code) :
    Text.isReadable (viewerCookie code) = true := by
  have hcode := hcode.readable
  rw [Text.isReadable] at hcode ⊢
  rw [toList_viewerCookie, List.all_append, List.all_cons, hcode]
  decide

/-- A cookie header with an access code has the code's pieces. -/
lemma cookieCode?_viewerCookie (hcode : IsAccessCode code) :
    cookieCode? [viewerCookie code] =
      (Text.splitOn ';' (viewerCookie code).toList).findSome? pairCode? := by
  simp [cookieCode?, isReadable_viewerCookie hcode]

/-- The pair that names a viewer gives the viewer. -/
lemma pairCode?_viewerCookie (hcode : IsAccessCode code) :
    pairCode? (viewerCookie code).toList = some code := by
  have hstrip : Text.stripBoth Text.isBlank (viewerCookie code).toList =
      (viewerCookie code).toList := by
    have hfirst : ∀ c ∈ (accessCodeCookie.toList ++ '=' :: code.toList).head?,
        Text.isBlank c = false := by
      rintro c ⟨⟩
      decide
    rw [toList_viewerCookie]
    refine Text.stripBoth_eq_self hfirst ?_
    intro c hlast
    apply hcode.ends
    have hwhole : (accessCodeCookie.toList ++ '=' :: code.toList).getLast? = some c := hlast
    rw [List.getLast?_append_of_ne_nil _ (by simp),
      List.getLast?_cons_of_ne_nil hcode.nonempty] at hwhole
    exact hwhole
  have hnone : '=' ∉ accessCodeCookie.toList := by decide
  have hsplit := Text.splitFirst?_append hnone code.toList
  have hnonempty := hcode.nonempty
  rw [pairCode?, hstrip, toList_viewerCookie, hsplit]
  simp [hnonempty]

/-- The request that is sent for a call names the call's viewer. -/
lemma cookie_of_request {client : Backend.Client} {call : Backend.Call} {sent : Backend.Request}
    (hsent : client.request call = .ok sent) : sent.cookie = viewerCookie call.viewer := by
  unfold Backend.Client.request at hsent
  split at hsent
  next => cases hsent
  next =>
    split at hsent
    next => cases hsent
    next =>
      split at hsent
      next => cases hsent
      next =>
        simp only at hsent
        split at hsent
        next =>
          cases hsent
          rfl
        next => cases hsent

/-- **A viewer is read back unless its code has a semicolon.**  Let a request to the host give an
access code.  Of the cookie that goes with any call put for that viewer the host itself reads the
same code just where the code has no semicolon; and where the request has named its viewer by a
cookie, the code has none. -/
theorem viewer_read_back_iff {viewer : String} (hviewer : request.accessCode? = some viewer) :
    (∀ (client : Backend.Client) (call : Backend.Call) (sent : Backend.Request),
      call.viewer = viewer → client.request call = .ok sent →
        (cookieCode? [sent.cookie] = some viewer ↔ ';' ∉ viewer.toList)) ∧
    ((cookieCode? (request.headerValues "cookie")).isSome = true → ';' ∉ viewer.toList) := by
  have hcode := isAccessCode_of_request hviewer
  constructor
  · rintro client call sent rfl hsent
    rw [cookie_of_request hsent]
    constructor
    · intro hread hsemicolon
      exact (mem_of_cookieCode hread hsemicolon).2 rfl
    · intro hnone
      have hwhole : ';' ∉ (viewerCookie call.viewer).toList := by
        rw [toList_viewerCookie]
        simpa [accessCodeCookie] using hnone
      rw [cookieCode?_viewerCookie hcode, Text.splitOn_of_not_mem hwhole,
        List.findSome?_cons, pairCode?_viewerCookie hcode]
  · intro hcookie hsemicolon
    obtain ⟨found, hfound⟩ := Option.isSome_iff_exists.mp hcookie
    have hsame : found = viewer := by
      rw [Request.accessCode?, hfound] at hviewer
      exact Option.some.inj hviewer
    subst hsame
    exact (mem_of_cookieCode hfound hsemicolon).2 rfl

/-- The backend of the samples. -/
def sampleClient : Backend.Client := ⟨"http://backend.test"⟩

/-- A blank at its beginning and an equals sign do not change a code on the way. -/
theorem viewer_read_back_equals : ∃ (request : Request) (sent : Backend.Request),
    request.accessCode? = some " judge=1" ∧
      sampleClient.request ⟨" judge=1", .statusOf "U1"⟩ = .ok sent ∧
      cookieCode? [sent.cookie] = some " judge=1" ∧ ';' ∉ " judge=1".toList := by
  have hviewer : (⟨"GET", "/", [("Cookie", "theme=dark; access_code= judge=1 ")], ""⟩ :
      Request).accessCode? = some " judge=1" := by decide +kernel
  have hsent : sampleClient.request ⟨" judge=1", .statusOf "U1"⟩ =
      .ok ⟨⟨"http", some ⟨⟨"", ""⟩, "backend.test", none⟩, "/get_update_status",
        some "update_id=U1", none⟩, "access_code= judge=1"⟩ := by decide +kernel
  obtain ⟨hread, hcookie⟩ := viewer_read_back_iff hviewer
  have hnone := hcookie (by decide +kernel)
  exact ⟨_, _, hviewer, hsent, (hread _ _ _ rfl hsent).mpr hnone, hnone⟩

/-- A code with a semicolon can be given in the header field, and the backend is told another one:
for the host it is one viewer who asks, and for the backend another. -/
theorem viewer_with_semicolon_lost : ∃ (request : Request) (sent : Backend.Request),
    request.accessCode? = some "judge;author" ∧
      sampleClient.request ⟨"judge;author", .statusOf "U1"⟩ = .ok sent ∧
      cookieCode? [sent.cookie] = some "judge" := by
  refine ⟨⟨"GET", "/", [("x-access-code", "judge;author")], ""⟩,
    ⟨⟨"http", some ⟨⟨"", ""⟩, "backend.test", none⟩, "/get_update_status",
      some "update_id=U1", none⟩, "access_code=judge;author"⟩, ?_, ?_, ?_⟩
  · decide +kernel
  · decide +kernel
  · decide +kernel

end Host

end AnnotationReview
