import AnnotationReview.Proofs.Service
import AnnotationReview.Proofs.Text.HeaderValue
import AnnotationReview.Proofs.Viewer

/-!
# Whom a request acts for

The header fields of a request, whatever bytes they hold, decide whom it acts for (`ActsFor`): the
first cookie pair that names a viewer decides, over all cookie headers that are readable, and only
without one the header field of its own.  What stands before a pair and does not name a viewer is
passed over, and a request that names nobody is refused without a call (`viewer_extracted`).

Whoever is named can be told to the backend: the code may stand in a cookie, so that a request to
the backend that cannot be built could not be built for anybody.
-/

namespace AnnotationReview

namespace Host

open Backend (viewerCookie)

/-! ## Requests as they arrive -/

/-- A request whose header values arrived as bytes.  Nobody looks at a value that is not readable,
so that replacements may stand in it. -/
def received (method path body : String) (fields : List (String × Bytes)) : Request :=
  ⟨method, path, fields.map fun (name, value) => (name, Text.decodeLossy value), body⟩

/-- The values of a header field, whose name is given in lower case. -/
def valuesOf (fields : List (String × Bytes)) (name : String) : List Bytes :=
  (fields.filter fun field => field.1.toLower == name).map Prod.snd

/-- The values of a header field that are readable, in order. -/
def readableValues (fields : List (String × Bytes)) (name : String) : List Bytes :=
  (valuesOf fields name).filter fun value => value.all (decide <| Text.IsReadableByte ·)

/-- The cookies of the headers that are readable, in order. -/
def cookiePairs (fields : List (String × Bytes)) : List (List Char) :=
  (readableValues fields "cookie").flatMap fun value => Text.splitOn ';' (Text.lettersOf value)

/-- A cookie names a viewer by a code: without the blanks at its ends it is the cookie's name, an
equals sign and the code, and the code is not empty. -/
def NamesViewer (pair : List Char) (code : String) : Prop :=
  Text.stripBoth Text.isBlank pair = "access_code=".toList ++ code.toList ∧ code ≠ ""

/-- The viewer for whom a request with these header fields acts. -/
inductive ActsFor (fields : List (String × Bytes)) (code : String) : Prop where
  /-- The first cookie that names somebody does. -/
  | cookie {before after : List (List Char)} {pair : List Char}
      (hpairs : cookiePairs fields = before ++ pair :: after)
      (hbefore : ∀ earlier ∈ before, ∀ other, ¬NamesViewer earlier other)
      (hpair : NamesViewer pair code)
  /-- No cookie names anybody, and the first header field of its own is readable and not blank. -/
  | header {value : Bytes} {more : List Bytes}
      (hcookies : ∀ pair ∈ cookiePairs fields, ∀ other, ¬NamesViewer pair other)
      (hvalues : valuesOf fields "x-access-code" = value :: more)
      (hreadable : ∀ b ∈ value, Text.IsReadableByte b)
      (hcode : code.toList = Text.stripBoth Text.isBlank (Text.lettersOf value))
      (hblank : code ≠ "")

variable {method path body : String} {fields : List (String × Bytes)} {pair : List Char}
  {code : String} {value : Bytes}

lemma headerValues_received (name : String) :
    (received method path body fields).headerValues name =
      (valuesOf fields name).map Text.decodeLossy := by
  rw [Request.headerValues, received, valuesOf, List.filter_map, List.map_map, List.map_map]
  rfl

/-! ## Cookies -/

/-- A pair gives the code by which it names a viewer. -/
lemma pairCode?_eq_some_iff : pairCode? pair = some code ↔ NamesViewer pair code := by
  have hname : "access_code=".toList = accessCodeCookie.toList ++ ['='] := by decide
  rw [NamesViewer, hname, List.append_assoc, List.singleton_append]
  constructor
  · intro hpair
    obtain ⟨hstrip, hnonempty⟩ := strip_of_pairCode hpair
    exact ⟨hstrip, fun hempty => hnonempty (by rw [hempty]; rfl)⟩
  · rintro ⟨hstrip, hnonempty⟩
    have hnone : '=' ∉ accessCodeCookie.toList := by decide
    rw [pairCode?, hstrip, Text.splitFirst?_append hnone]
    simp [hnonempty]

lemma pairCode?_eq_none_iff : pairCode? pair = none ↔ ∀ code, ¬NamesViewer pair code := by
  rw [Option.eq_none_iff_forall_ne_some]
  exact forall_congr' fun code => not_congr pairCode?_eq_some_iff

/-- The cookies are those of the readable headers. -/
lemma cookieCode?_received :
    cookieCode? ((received method path body fields).headerValues "cookie") =
      (cookiePairs fields).findSome? pairCode? := by
  have hpieces : ∀ values : List Bytes,
      ((values.map Text.decodeLossy).filter Text.isReadable).flatMap
          (fun value => Text.splitOn ';' value.toList) =
        (values.filter fun value => value.all (decide <| Text.IsReadableByte ·)).flatMap
          fun value => Text.splitOn ';' (Text.lettersOf value) := by
    intro values
    induction values with
    | nil => rfl
    | cons value values ih =>
      rw [List.map_cons]
      by_cases hvalue : ∀ b ∈ value, Text.IsReadableByte b
      · rw [List.filter_cons_of_pos (Text.isReadable_decodeLossy.mpr hvalue),
          List.filter_cons_of_pos (by simpa using hvalue), List.flatMap_cons, List.flatMap_cons, ih,
          Text.toList_decodeLossy hvalue]
      · rw [List.filter_cons_of_neg (mt Text.isReadable_decodeLossy.mp hvalue),
          List.filter_cons_of_neg (by simpa using hvalue), ih]
  rw [cookieCode?, headerValues_received, hpieces, cookiePairs, readableValues]

/-! ## The header field -/

/-- A readable value that is not blank gives itself without the blanks at its ends. -/
lemma headerCode?_decodeLossy :
    headerCode? (Text.decodeLossy value) = some code ↔
      (∀ b ∈ value, Text.IsReadableByte b) ∧
        code.toList = Text.stripBoth Text.isBlank (Text.lettersOf value) ∧ code ≠ "" := by
  by_cases hvalue : ∀ b ∈ value, Text.IsReadableByte b
  · have htrim : (Text.trim (Text.decodeLossy value)).toList =
        Text.stripBoth Text.isBlank (Text.lettersOf value) := by
      rw [Text.trim, String.toList_ofList, Text.toList_decodeLossy hvalue]
    rw [headerCode?, if_pos (Text.isReadable_decodeLossy.mpr hvalue), ← htrim, String.toList_inj]
    dsimp only
    split
    next hempty =>
      have hblank : Text.trim (Text.decodeLossy value) = "" := String.isEmpty_iff.mp hempty
      simp [hblank]
    next hfilled =>
      have hne : Text.trim (Text.decodeLossy value) ≠ "" := mt String.isEmpty_iff.mpr hfilled
      constructor
      · intro hcode
        cases hcode
        exact ⟨hvalue, rfl, hne⟩
      · rintro ⟨-, rfl, -⟩
        rfl
  · rw [headerCode?, if_neg (mt Text.isReadable_decodeLossy.mp hvalue)]
    simp [hvalue]

/-- What the first cookie gives is whom the request acts for. -/
lemma exists_of_findSome (hcookie : (cookiePairs fields).findSome? pairCode? = some code) :
    ∃ pair ∈ cookiePairs fields, NamesViewer pair code ∧ ActsFor fields code := by
  obtain ⟨before, pair, after, hpairs, hpair, hbefore⟩ := List.findSome?_eq_some_iff.mp hcookie
  have hnames := pairCode?_eq_some_iff.mp hpair
  refine ⟨pair, by simp [hpairs], hnames, .cookie hpairs (fun earlier hearlier => ?_) hnames⟩
  exact pairCode?_eq_none_iff.mp (hbefore earlier hearlier)

/-- Nothing hides a cookie that names a viewer: if there is one, the request acts for a viewer whom
a cookie names. -/
lemma exists_of_namesViewer (hpair : pair ∈ cookiePairs fields) (hnames : NamesViewer pair code) :
    ∃ first ∈ cookiePairs fields, ∃ viewer, NamesViewer first viewer ∧ ActsFor fields viewer := by
  cases hcookie : (cookiePairs fields).findSome? pairCode? with
  | some viewer =>
    obtain ⟨first, hfirst, hacts⟩ := exists_of_findSome hcookie
    exact ⟨first, hfirst, viewer, hacts⟩
  | none =>
    have hnone := List.findSome?_eq_none_iff.mp hcookie pair hpair
    exact absurd hnames (pairCode?_eq_none_iff.mp hnone code)

/-- The request gives the code of whom it acts for. -/
lemma accessCode?_received (method path body : String) :
    (received method path body fields).accessCode? = some code ↔ ActsFor fields code := by
  rw [Request.accessCode?, cookieCode?_received]
  cases hcookie : (cookiePairs fields).findSome? pairCode? with
  | some found =>
    obtain ⟨pair, hpair, hnames, hacts⟩ := exists_of_findSome hcookie
    constructor
    · rintro ⟨⟩
      exact hacts
    · rintro (⟨hpairs', hbefore', hpair'⟩ | ⟨hcookies, -, -, -, -⟩)
      · have hfound : (cookiePairs fields).findSome? pairCode? = some code :=
          List.findSome?_eq_some_iff.mpr ⟨_, _, _, hpairs', pairCode?_eq_some_iff.mpr hpair',
            fun earlier hearlier => pairCode?_eq_none_iff.mpr (hbefore' earlier hearlier)⟩
        exact hcookie.symm.trans hfound
      · exact absurd hnames (hcookies pair hpair found)
  | none =>
    have hnone := List.findSome?_eq_none_iff.mp hcookie
    dsimp only
    rw [Request.header?, headerValues_received, List.head?_map]
    constructor
    · intro hheader
      obtain ⟨text, hfirst, hcode⟩ := Option.bind_eq_some_iff.mp hheader
      obtain ⟨value, hvalue, rfl⟩ := Option.map_eq_some_iff.mp hfirst
      obtain ⟨more, hvalues⟩ := List.head?_eq_some_iff.mp hvalue
      obtain ⟨hreadable, hcode, hblank⟩ := headerCode?_decodeLossy.mp hcode
      exact .header (fun pair hpair => pairCode?_eq_none_iff.mp (hnone pair hpair)) hvalues
        hreadable hcode hblank
    · rintro (⟨hpairs, -, hpair⟩ | ⟨-, hvalues, hreadable, hcode, hblank⟩)
      · rw [hpairs] at hnone
        have hgiven := hnone _ (List.mem_append_right _ List.mem_cons_self)
        rw [pairCode?_eq_some_iff.mpr hpair] at hgiven
        cases hgiven
      · have hfirst : (valuesOf fields accessCodeHeader).head? = some _ :=
          List.head?_eq_some_iff.mpr ⟨_, hvalues⟩
        rw [hfirst, Option.map_some, Option.bind_some]
        exact headerCode?_decodeLossy.mpr ⟨hreadable, hcode, hblank⟩

/-! ## Requests that name nobody -/

open Server in
/-- A request of which no viewer can be told is refused at once. -/
lemma handle_of_viewer_error (server : Server) (now : Nat) {request : Request}
    {resource : Resource} {error : Error} (hviewer : request.viewer = .error error)
    (hresource : Resource.ofPath? request.path = some resource)
    (hmethod : request.method ∈ resource.methods) (hhealth : resource ≠ .health) :
    server.handle now request =
      .done ((Failure.error error).response.sent server.settings request, server) := by
  have hoptions : request.method ≠ "OPTIONS" := by
    intro heq
    rw [heq] at hmethod
    cases resource with
    | entry id index verb => cases verb <;> simp [Resource.methods] at hmethod
    | _ => simp [Resource.methods] at hmethod
  have hserve : server.serve now request resource =
      .done ((Failure.error error).response, server) := by
    rw [serve, if_neg (by simp [hmethod]), if_neg hhealth, hviewer]
    rfl
  rw [handle, if_neg hoptions, hresource]
  show (server.serve now request resource).bind _ = _
  rw [hserve]
  rfl

/-! ## Telling the backend -/

/-- What can be told of a viewer for whom a request acts. -/
structure CanBeTold (code : String) : Prop where
  notBlank : ∃ c ∈ code.toList, Text.isBlank c = false
  ends : ∀ c ∈ code.toList.getLast?, Text.isBlank c = false
  cookie : Text.isHeaderValue (viewerCookie code) = true
  /-- Whatever is asked, a request for the backend is built as it would be for nobody, with another
  cookie, or it fails as it would for nobody. -/
  builds : ∀ (client : Backend.Client) (query : Backend.Query),
    client.request ⟨code, query⟩ =
      (client.request ⟨"", query⟩).map fun sent => { sent with cookie := viewerCookie code }

/-- Building a request does not depend on a viewer whose cookie may be sent. -/
lemma request_of_cookie (hcookie : Text.isHeaderValue (viewerCookie code) = true)
    (client : Backend.Client) (query : Backend.Query) :
    client.request ⟨code, query⟩ =
      (client.request ⟨"", query⟩).map fun sent => { sent with cookie := viewerCookie code } := by
  have hnobody : Text.isHeaderValue (viewerCookie "") = true := by decide +kernel
  rw [Backend.Client.request, Backend.Client.request]
  simp only [hcookie, hnobody, Bool.not_true, Bool.false_eq_true, if_false]
  cases Url.parse? (client.endpointText query) with
  | none => rfl
  | some url =>
    dsimp only
    split_ifs
    · rfl
    · rfl
    · rfl

lemma IsAccessCode.canBeTold (hcode : IsAccessCode code) : CanBeTold code := by
  have hcookie : Text.isHeaderValue (viewerCookie code) = true :=
    Text.isHeaderValue_of_isReadable (isReadable_viewerCookie hcode)
  have hlast := List.getLast?_eq_some_getLast hcode.nonempty
  refine ⟨⟨_, List.getLast_mem hcode.nonempty, hcode.ends _ hlast⟩, hcode.ends, hcookie, ?_⟩
  exact request_of_cookie hcookie

/-- **Whom a request acts for.**  Whatever bytes the header fields of a request hold, the access
code that it gives is that of the first cookie that names a viewer, in the cookie headers that are
readable, and no other cookie hides one that does.  If none does, it is what the first header field
of its own holds between the blanks at its ends, if that is readable and not blank; and else the
request is refused, whatever it asks of a server and without a call to the backend.  A code is not
blank and does not end in a blank, and it may stand in a cookie: a request for the backend fails to
be built only where it would fail for nobody as well. -/
theorem viewer_extracted (method path body : String) (fields : List (String × Bytes)) :
    (∀ code, (received method path body fields).accessCode? = some code ↔ ActsFor fields code) ∧
    (∀ pair ∈ cookiePairs fields, ∀ code, NamesViewer pair code →
      ∃ first ∈ cookiePairs fields, ∃ viewer, NamesViewer first viewer ∧ ActsFor fields viewer) ∧
    ((∀ code, ¬ActsFor fields code) → ∀ (server : Server) (now : Nat) (resource : Resource),
      Resource.ofPath? path = some resource → resource ≠ .health → method ∈ resource.methods →
      ∃ response, server.handle now (received method path body fields) = .done (response, server) ∧
        response.status = 401) ∧
    (∀ code, ActsFor fields code → CanBeTold code) := by
  refine ⟨fun code => accessCode?_received method path body,
    fun pair hpair code hnames => exists_of_namesViewer hpair hnames, ?_, ?_⟩
  · intro hnobody server now resource hresource hhealth hmethod
    have hnone : (received method path body fields).accessCode? = none := by
      rw [Option.eq_none_iff_forall_ne_some]
      exact fun code hcode => hnobody code ((accessCode?_received method path body).mp hcode)
    obtain ⟨message, hviewer⟩ : ∃ message,
        (received method path body fields).viewer = .error (.unauthorized message) := by
      rw [Request.viewer, hnone]
      exact ⟨_, rfl⟩
    have hresponse := handle_of_viewer_error server now hviewer hresource hmethod hhealth
    refine ⟨_, hresponse, ?_⟩
    rw [Response.status_sent]
    rfl
  · intro code hacts
    have hcode := (accessCode?_received method path body).mpr hacts
    exact (isAccessCode_of_request hcode).canBeTold

/-- A cookie header that is not readable, cookies that name nobody before one that does, and a
header field of its own. -/
def crowdedFields : List (String × Bytes) :=
  [("Cookie", Text.encode "access_code=" ++ [0xFF]),
    ("cookie", Text.encode "theme=dark; access_code=; flag; access_code=judge=1"),
    ("x-access-code", Text.encode "author")]

/-- The cookie decides, with all that stands behind its first equals sign. -/
theorem crowded_request_acts_for_judge : ActsFor crowdedFields "judge=1" ∧ CanBeTold "judge=1" := by
  obtain ⟨hacts, -, -, htold⟩ := viewer_extracted "GET" "/" "" crowdedFields
  have hjudge := (hacts "judge=1").mp (by decide +kernel)
  exact ⟨hjudge, htold _ hjudge⟩

end Host

end AnnotationReview
