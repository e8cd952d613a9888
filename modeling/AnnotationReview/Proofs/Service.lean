import AnnotationReview.Proofs.Confinement
import AnnotationReview.Proofs.Offer

/-!
# What a request comes to

Whatever a request asks for, one of a few things happens: it is turned away before anything is
looked up, its annotation is not mounted, it is shown something, or it has mounted, unmounted or
commanded something.  `Served` lists them for the handling of a request, each with the answer and
with what becomes of the registry, and `Handled` adds what is put around an answer.  Statements
about all requests are case analyses of these lists.

That a mounted annotation has a view which can be shown rests on the history of the server: every
mount is of a slot that was made for its pair (`Registry.Owned`).
-/

namespace AnnotationReview

open Backend (Dialogue)
open Backend.Dialogue (Exchange Path path_bind_iff)

/-! ## Mounts and their slots -/

namespace Registry

variable {registry after : Registry} {key : SlotKey} {slot : SlotId} {view : View} {now : Nat}

/-- Every mount is of a slot that was made for its pair. -/
def Owned (registry : Registry) : Prop :=
  ∀ pair ∈ registry.mounted, registry.keys[pair.2]? = some pair.1

lemma Owned.sound (howned : registry.Owned) : registry.Sound :=
  fun hfind => howned _ (mem_of_find? hfind)

lemma owned_empty : empty.Owned := by
  intro pair hmem
  cases hmem

/-- Mounts may go at any time. -/
lemma Owned.of_subset (howned : registry.Owned) (hmounted : after.mounted ⊆ registry.mounted)
    (hkeys : after.keys = registry.keys) : after.Owned := by
  intro pair hmem
  rw [hkeys]
  exact howned pair (hmounted hmem)

lemma Owned.touch (howned : registry.Owned) (hfind : registry.find? key = some slot) (now : Nat) :
    (registry.touch now slot).Owned :=
  howned.of_subset (List.Subset.refl _) (keys_update (howned.sound hfind) fun _ hfound => hfound)

lemma Owned.add (howned : registry.Owned) {made : Slot} (hmade : made.key = key) :
    (registry.add key made).Owned := by
  intro pair hmem
  rw [keys_add hmade]
  rcases List.mem_append.mp hmem with hmem | hmem
  · have hslot := howned pair hmem
    rw [List.getElem?_append_left (List.getElem?_eq_some_iff.mp hslot).1, hslot]
  · obtain rfl := List.mem_singleton.mp hmem
    simp [keys]

lemma Owned.setView (howned : registry.Owned) (hslot : registry.keys[slot]? = some key)
    (hview : view.key = key) : (registry.setView slot view).Owned :=
  howned.of_subset (List.Subset.refl _) (keys_update hslot (key_setView hview))

/-- An operation leaves every mount its slot. -/
lemma Owned.perform {α : Type} {operation : Review.Operation α} {exchanges : List Exchange}
    {result : Except Review.Error α} (howned : registry.Owned)
    (hslot : registry.keys[slot]? = some key) (hkeeps : operation.Keeps key)
    (hpath : Path (registry.perform slot operation) exchanges (result, after)) : after.Owned := by
  obtain ⟨view, hview, hkey⟩ := exists_view hslot
  rw [perform_eq hview] at hpath
  obtain ⟨front, ⟨told, left⟩, back, rfl, hfront, hback⟩ := path_bind_iff.mp hpath
  cases hback
  exact howned.setView hslot (hkeeps hkey hfront)

lemma shown?_of_find? (hfind : registry.find? key = some slot)
    (hview : registry.view? slot = some view) : registry.shown? key = some view := by
  rw [shown?, hfind]
  exact hview

/-- Where a pair is not mounted there is nothing to remove. -/
lemma remove_of_none (hfind : registry.find? key = none) : (registry.remove key).2 = registry := by
  refine congrArg (Registry.mk registry.slots) (List.filter_eq_self.mpr fun pair hmem => ?_)
  show (pair.1 != key) = true
  rw [bne_comm]
  exact List.lookup_eq_none_iff.mp hfind pair hmem

lemma exists_of_shown? (hshown : registry.shown? key = some view) :
    ∃ slot, registry.find? key = some slot ∧ registry.view? slot = some view :=
  Option.bind_eq_some_iff.mp hshown

/-- A mount comes to a slot of its pair that shows something. -/
lemma mount_shows {text : String} {exchanges : List Exchange} (howned : registry.Owned)
    (hpath : Path (registry.mount now key text) exchanges (slot, after)) :
    after.Owned ∧ after.find? key = some slot ∧ ∃ view, after.view? slot = some view := by
  obtain ⟨⟨found, made, middle⟩, hgot⟩ :
    ∃ got, registry.getOrInsert now key (.fresh key.annotationId key.viewer text) = got := ⟨_, rfl⟩
  have hmiddle : middle.Owned ∧ middle.find? key = some found := by
    cases hfind : registry.find? key with
    | none =>
      rw [getOrInsert_of_none hfind] at hgot
      cases hgot
      exact ⟨howned.add rfl, find?_add_self hfind⟩
    | some mounted =>
      rw [getOrInsert_of_some hfind] at hgot
      cases hgot
      exact ⟨howned.touch hfind now, hfind⟩
  obtain ⟨howned, hfind⟩ := hmiddle
  rw [mount_eq hgot] at hpath
  obtain ⟨front, ⟨told, left⟩, back, rfl, hfront, hback⟩ := path_bind_iff.mp hpath
  cases hback
  have hslot := howned.sound hfind
  refine ⟨howned.perform hslot (Review.keeps_mount key text) hfront, ?_⟩
  obtain ⟨view, hview, -⟩ := exists_view hslot
  rw [perform_eq hview] at hfront
  obtain ⟨_, ⟨_, next⟩, _, -, -, hset⟩ := path_bind_iff.mp hfront
  cases hset
  exact ⟨hfind, next, view?_setView_self hview next⟩

end Registry

/-! ## Answers with a snapshot -/

/-- The snapshot in what is told: the whole of it, or its member for the annotation. -/
def Json.Value.snapshot? (value : Json.Value) : Option Json.Value :=
  match value.member? "html" with
  | some _ => some value
  | none => value.member? "annotation"

namespace Host

open Json (Value)
open Server Server.Handling
open Review (Command CommandResult)

/-- The snapshot that a response carries. -/
def Response.snapshot? (response : Response) : Option Value :=
  match response.body with
  | .json value => (value.member? "data").bind Value.snapshot?
  | _ => none

@[simp] lemma snapshot?_snapshot (view : View) : view.snapshot.snapshot? = some view.snapshot := by
  simp [Value.snapshot?, Value.member?, View.snapshot]

@[simp] lemma snapshot?_data (status : Nat) (value : Value) :
    (Response.data status value).snapshot? = value.snapshot? := by
  simp [Response.snapshot?, Response.data, Response.withBody, Value.member?]

/-! ## Requests that are turned away -/

/-- The request only asks to be shown something. -/
def Request.Reads (request : Request) : Prop :=
  request.method = "GET" ∨ request.method = "HEAD"

/-- The request is one for the markup of an annotation. -/
def Request.NamesMarkup (request : Request) : Prop :=
  ∃ id, Resource.ofPath? request.path = some (.markup id)

/-- The request asks for an annotation with a blank name to be mounted. -/
def Request.MountsBlank (request : Request) : Prop :=
  Resource.ofPath? request.path = some .annotations ∧ request.method = "POST" ∧
    ∃ data, request.record MountData.read = .ok data ∧ (Text.trim data.annotationId).isEmpty = true

/-- The request asks for an edit of what is no target of edits. -/
def Request.Mistargets (request : Request) (name : String) : Prop :=
  (∃ id, Resource.ofPath? request.path = some (.edit id)) ∧ request.method = "POST" ∧
    (∃ data, request.record OpenEditData.read = .ok data ∧ data.target? = some name) ∧
    EditTarget.ofName? name = none

/-! ## What is done and answered -/

/-- How a command is answered: by the view that it has left, or by its error. -/
def Answers (result : Except Review.Error CommandResult) (next : View)
    (answered : Except Failure Response) : Prop :=
  match result with
  | .ok _ => ∃ value, answered = .ok (.data 200 value) ∧ value.snapshot? = some next.snapshot
  | .error error => answered = .error (.error (.review error))

/-- What the handling of a request for a pair comes to. -/
inductive Served (now : Nat) (request : Request) (key : SlotKey) (registry : Registry) :
    List Exchange → Except Failure Response → Registry → Prop where
  /-- A name in the path or the body is not what it has to be. -/
  | unreadable (rejection : Rejection) :
      Served now request key registry [] (.error (.rejection rejection)) registry
  | blank (hblank : request.MountsBlank) :
      Served now request key registry []
        (.error (.error (.badRequest "annotation_id must not be empty"))) registry
  | mistargeted {name : String} (hname : request.Mistargets name) :
      Served now request key registry [] (.error (.error (.review (.domain (.validation
        ("Invalid edit target '" ++ name ++ "'. Must be one of: nl, cmd")))))) registry
  | missing (hfind : registry.find? key = none) :
      Served now request key registry []
        (.error (.error (.review (.domain (.notFound "Annotation" key.annotationId))))) registry
  | unmounted {slot : SlotId} (hwrites : ¬request.Reads) (hfind : registry.find? key = some slot) :
      Served now request key registry [] (.ok (.empty 204)) (registry.remove key).2
  | shown {slot : SlotId} {view : View} (hfind : registry.find? key = some slot)
      (hview : registry.view? slot = some view) :
      Served now request key registry [] (.ok (.data 200 view.snapshot)) (registry.touch now slot)
  | written {slot : SlotId} {view : View} (hmarkup : request.NamesMarkup)
      (hfind : registry.find? key = some slot) (hview : registry.view? slot = some view) :
      Served now request key registry [] (.ok (.withBody 200 (.html view.render)))
        (registry.touch now slot)
  | mounted {exchanges : List Exchange} {slot : SlotId} {after : Registry} {view : View}
      {text : String} (hwrites : ¬request.Reads)
      (hpath : Path (registry.mount now key text) exchanges (slot, after))
      (hfind : after.find? key = some slot) (hview : after.view? slot = some view) :
      Served now request key registry exchanges (.ok (.data 201 view.snapshot)) after
  | commanded {slot : SlotId} {view next : View} {command : Command} {exchanges : List Exchange}
      {result : Except Review.Error CommandResult} {answered : Except Failure Response}
      (hwrites : ¬request.Reads) (hfind : registry.find? key = some slot)
      (hview : registry.view? slot = some view)
      (hpath : Path (command.operation view) exchanges (result, next))
      (hanswers : Answers result next answered) :
      Served now request key registry exchanges answered
        ((registry.touch now slot).setView slot next)

section

variable {α β : Type} {now : Nat} {request : Request} {key : SlotKey} {registry after : Registry}
  {slot : SlotId} {view : View} {exchanges : List Exchange} {answered : Except Failure Response}
  {resource : Resource} {viewer id method : String}

lemma lookUp_bind_of_none (hfind : registry.find? key = none) (f : SlotId → Handling α) :
    (lookUp now key >>= f) registry =
      .done (.error (.error (.review (.domain (.notFound "Annotation" key.annotationId)))),
        registry) := by
  have hmissing : registry.handle now key = .error (.notFound "Annotation" key.annotationId) := by
    rw [Registry.handle, Registry.get, hfind]
    rfl
  show (lookUp now key registry).bind _ = _
  rw [lookUp, hmissing]
  rfl

lemma lookUp_bind_of_some (hfind : registry.find? key = some slot) (f : SlotId → Handling α) :
    (lookUp now key >>= f) registry = f slot (registry.touch now slot) := by
  have hfound : registry.handle now key = .ok (slot, registry.touch now slot) := by
    rw [Registry.handle, Registry.get, hfind]
    rfl
  show (lookUp now key registry).bind _ = _
  rw [lookUp, hfound]
  rfl

lemma viewOf_bind (hview : registry.view? slot = some view) (f : View → Handling α) :
    (viewOf slot >>= f) registry = f view registry := by
  show (viewOf slot registry).bind _ = _
  rw [viewOf, hview]
  rfl

lemma path_perform {operation : Review.Operation α} {told : Except Failure α}
    (hview : registry.view? slot = some view)
    (hpath : Path (perform slot operation registry) exchanges (told, after)) :
    ∃ result next, Path (operation view) exchanges (result, next) ∧
      told = result.mapError (fun error => .error (.review error)) ∧
      after = registry.setView slot next := by
  obtain ⟨front, ⟨result, left⟩, back, rfl, hfront, hback⟩ := path_bind_iff.mp hpath
  rw [Registry.perform_eq hview] at hfront
  obtain ⟨first, ⟨_, next⟩, second, rfl, hoperation, hset⟩ := path_bind_iff.mp hfront
  cases hset
  refine ⟨result, next, ?_⟩
  cases result <;> cases hback <;> exact ⟨by simpa using hoperation, rfl, rfl⟩

/-- A command on a mounted annotation, answered with what it came to and the view that is left. -/
lemma served_of_command {operation : Review.Operation α} {f : α → CommandResult}
    (command : Command) (hcommand : operation.map f = command.operation)
    {tell : α → View → Response}
    (htell : ∀ value view, ∃ data, tell value view = .data 200 data ∧
      data.snapshot? = some view.snapshot)
    (howned : registry.Owned) (hwrites : ¬request.Reads)
    (hpath : Path ((do
        let slot ← lookUp now key
        let value ← perform slot operation
        let view ← viewOf slot
        return tell value view : Handling Response) registry) exchanges (answered, after)) :
    Served now request key registry exchanges answered after := by
  cases hfind : registry.find? key with
  | none =>
    rw [lookUp_bind_of_none hfind] at hpath
    cases hpath
    exact .missing hfind
  | some slot =>
    obtain ⟨view, hview, -⟩ := Registry.exists_view (howned.sound hfind)
    have htouched : (registry.touch now slot).view? slot = some view := by simpa using hview
    rw [lookUp_bind_of_some hfind] at hpath
    have hmapped : ∀ {exchanges : List Exchange} {result : Except Review.Error α} {next : View},
        Path (operation view) exchanges (result, next) →
          Path (command.operation view) exchanges (result.map f, next) := by
      intro exchanges result next hoperation
      rw [← hcommand, ← List.append_nil exchanges]
      exact path_bind_iff.mpr ⟨exchanges, _, [], rfl, hoperation, .done _⟩
    obtain ⟨front, back, value, middle, rfl, hfront, hback⟩ | ⟨failure, rfl, hfailed⟩ :=
      path_bind_cases hpath
    · obtain ⟨_ | _, next, hoperation, ⟨⟩, rfl⟩ := path_perform htouched hfront
      rw [viewOf_bind (Registry.view?_setView_self htouched next)] at hback
      cases hback
      rw [List.append_nil]
      obtain ⟨data, hdata, hsnapshot⟩ := htell value next
      exact .commanded hwrites hfind hview (hmapped hoperation) ⟨data, congrArg _ hdata, hsnapshot⟩
    · obtain ⟨_ | _, next, hoperation, ⟨⟩, rfl⟩ := path_perform htouched hfailed
      exact .commanded hwrites hfind hview (hmapped hoperation) rfl

/-- What is only shown leaves its trace in the time of the look-up alone. -/
lemma served_of_look (howned : registry.Owned) {tell : View → Response}
    (htell : ∀ slot view, registry.find? key = some slot → registry.view? slot = some view →
      Served now request key registry [] (.ok (tell view)) (registry.touch now slot))
    (hpath : Path ((do
        let slot ← lookUp now key
        let view ← viewOf slot
        return tell view : Handling Response) registry) exchanges (answered, after)) :
    Served now request key registry exchanges answered after := by
  cases hfind : registry.find? key with
  | none =>
    rw [lookUp_bind_of_none hfind] at hpath
    cases hpath
    exact .missing hfind
  | some slot =>
    obtain ⟨view, hview, -⟩ := Registry.exists_view (howned.sound hfind)
    have htouched : (registry.touch now slot).view? slot = some view := by simpa using hview
    rw [lookUp_bind_of_some hfind, viewOf_bind htouched] at hpath
    cases hpath
    exact htell slot view hfind hview

lemma served_of_unmount (hwrites : ¬request.Reads)
    (hpath : Path (unmount key registry) exchanges (answered, after)) :
    Served now request key registry exchanges answered after := by
  change Path (if (registry.find? key).isSome then _ else _) _ _ at hpath
  cases hfind : registry.find? key with
  | none =>
    rw [hfind] at hpath
    cases hpath
    show Served now request key registry [] _ (registry.remove key).2
    rw [Registry.remove_of_none hfind]
    exact .missing hfind
  | some slot =>
    rw [hfind] at hpath
    cases hpath
    exact .unmounted hwrites hfind

lemma served_of_mount {data : MountData} (howned : registry.Owned) (hwrites : ¬request.Reads)
    (hresource : Resource.ofPath? request.path = some .annotations)
    (hmethod : request.method = "POST")
    (hdata : request.record MountData.read = .ok data)
    (hpath : Path (mount now viewer data registry) exchanges (answered, after)) :
    Served now request ⟨viewer, data.annotationId⟩ registry exchanges answered after := by
  rw [mount] at hpath
  split at hpath
  next hblank =>
    cases hpath
    exact .blank ⟨hresource, hmethod, data, hdata, hblank⟩
  next =>
    obtain ⟨front, back, slot, middle, rfl, hfront, hback⟩ | ⟨failure, rfl, hfailed⟩ :=
      path_bind_cases hpath
    · obtain ⟨first, ⟨found, left⟩, second, rfl, hmount, hdone⟩ := path_bind_iff.mp hfront
      cases hdone
      obtain ⟨-, hfind, view, hview⟩ := Registry.mount_shows howned hmount
      have hsnapshot : snapshot slot middle = .done (.ok (.data 200 view.snapshot), middle) :=
        viewOf_bind hview _
      change Path ((snapshot slot middle).bind _) _ _ at hback
      rw [hsnapshot] at hback
      cases hback
      simp only [List.append_nil]
      exact .mounted hwrites hmount hfind hview
    · obtain ⟨first, ⟨found, left⟩, second, rfl, hmount, hdone⟩ := path_bind_iff.mp hfailed
      cases hdone

/-- What is done for a segment is done for the pair that it names. -/
lemma served_of_segment {body : String → Handling Response}
    (hkey : segmentKey? viewer id = some key)
    (hbody : ∀ name, Path (body name registry) exchanges (answered, after) →
      Served now request ⟨viewer, name⟩ registry exchanges answered after)
    (hpath : Path ((extract (segmentText id) >>= body) registry) exchanges (answered, after)) :
    Served now request key registry exchanges answered after := by
  cases hname : segmentText id with
  | error rejection =>
    rw [hname] at hpath
    cases hpath
    exact .unreadable rejection
  | ok name =>
    rw [hname] at hpath
    rw [key_of_segment hkey hname]
    exact hbody name hpath

lemma served_of_extract {result : Except Rejection α} {body : α → Handling Response}
    (hbody : ∀ value, result = .ok value → Path (body value registry) exchanges (answered, after) →
      Served now request key registry exchanges answered after)
    (hpath : Path ((extract result >>= body) registry) exchanges (answered, after)) :
    Served now request key registry exchanges answered after := by
  cases hresult : result with
  | error rejection =>
    rw [hresult] at hpath
    cases hpath
    exact .unreadable rejection
  | ok value =>
    rw [hresult] at hpath
    exact hbody value hresult hpath

lemma served_of_names {index : String} {body : String × UInt32 → Handling Response}
    (hkey : segmentKey? viewer id = some key)
    (hbody : ∀ name number, Path (body (name, number) registry) exchanges (answered, after) →
      Served now request ⟨viewer, name⟩ registry exchanges answered after)
    (hpath : Path ((extract (entryNames id index) >>= body) registry) exchanges
      (answered, after)) :
    Served now request key registry exchanges answered after := by
  refine served_of_extract (fun (name, number) hnames hpath => ?_) hpath
  rw [key_of_segment hkey (segment_of_entryNames hnames)]
  exact hbody name number hpath

/-- The target of an edit: the one that is named, or the text. -/
def OpenEditData.chosen (data : OpenEditData) : Except DomainError EditTarget :=
  match data.target? with
  | some name => EditTarget.parse name
  | none => .ok .naturalLanguage

lemma parse_of_none {name : String} (hname : EditTarget.ofName? name = none) :
    EditTarget.parse name = .error (.validation
      ("Invalid edit target '" ++ name ++ "'. Must be one of: nl, cmd")) := by
  rw [EditTarget.parse, hname]

/-- The target of an edit is one, or the request is turned away. -/
lemma served_of_target {data : OpenEditData} {body : EditTarget → Handling Response}
    (hresource : Resource.ofPath? request.path = some (.edit id))
    (hmethod : request.method = "POST")
    (hdata : request.record OpenEditData.read = .ok data)
    (hbody : ∀ target, Path (body target registry) exchanges (answered, after) →
      Served now request key registry exchanges answered after)
    (hpath : Path ((rule data.chosen >>= body) registry) exchanges (answered, after)) :
    Served now request key registry exchanges answered after := by
  rw [OpenEditData.chosen] at hpath
  cases hname : data.target? with
  | none =>
    rw [hname] at hpath
    exact hbody .naturalLanguage hpath
  | some name =>
    rw [hname] at hpath
    change Path ((rule (EditTarget.parse name) >>= body) registry) _ _ at hpath
    cases htarget : EditTarget.ofName? name with
    | none =>
      rw [parse_of_none htarget] at hpath
      cases hpath
      exact .mistargeted ⟨⟨id, hresource⟩, hmethod, ⟨data, hdata, hname⟩, htarget⟩
    | some target =>
      have hparse : EditTarget.parse name = .ok target := by rw [EditTarget.parse, htarget]
      rw [hparse] at hpath
      exact hbody target hpath

lemma exists_snapshot (view : View) :
    ∃ data, Response.data 200 view.snapshot = .data 200 data ∧
      data.snapshot? = some view.snapshot :=
  ⟨_, rfl, snapshot?_snapshot view⟩

/-- What else is told of a command stands before the snapshot. -/
lemma exists_told {name : String} (hname : name ≠ "html" ∧ name ≠ "annotation") (told : Value)
    (view : View) :
    ∃ data, Response.data 200 (.object [(name, told), ("annotation", view.snapshot)]) =
      .data 200 data ∧ data.snapshot? = some view.snapshot :=
  ⟨_, rfl, by simp [Value.snapshot?, Value.member?, hname]⟩

lemma exists_editResult (outcome : Review.EditOutcome) (view : View) :
    ∃ data, Response.data 200 (editResult outcome view) = .data 200 data ∧
      data.snapshot? = some view.snapshot := by
  refine ⟨_, rfl, ?_⟩
  cases outcome <;> simp [editResult, Value.snapshot?, Value.member?]

/-- Whatever is asked of an annotation comes to one of these things. -/
lemma served_of_answer (howned : registry.Owned)
    (hresource : Resource.ofPath? request.path = some resource)
    (hmethod : request.method ∈ resource.methods) (hsame : request.method = method)
    (hkey : resource.address? request viewer = some key)
    (hpath : Path (answer now request resource method viewer registry) exchanges
      (answered, after)) :
    Served now request key registry exchanges answered after := by
  have hwrites : "GET" ∉ resource.methods ∧ "HEAD" ∉ resource.methods → ¬request.Reads := by
    rintro ⟨hget, hhead⟩ (hreads | hreads)
    · exact hget (hreads ▸ hmethod)
    · exact hhead (hreads ▸ hmethod)
  unfold answer at hpath
  -- one case for each resource and method, in the order of `answer`
  split at hpath
  · refine served_of_extract (fun data hdata hpath => ?_) hpath
    rw [Resource.address?, hdata] at hkey
    obtain rfl := Option.some.inj hkey
    exact served_of_mount howned (hwrites (by decide)) hresource
      (by simpa [Resource.methods] using hmethod) hdata hpath
  · refine served_of_segment hkey (fun name hpath => ?_) hpath
    exact served_of_unmount (by simp [Request.Reads, hsame]) hpath
  · refine served_of_segment hkey (fun name hpath => ?_) hpath
    exact served_of_look howned (fun slot view => .shown) hpath
  · refine served_of_segment hkey (fun name hpath => ?_) hpath
    exact served_of_look howned (fun slot view => .written ⟨_, hresource⟩) hpath
  · refine served_of_segment hkey (fun name hpath => ?_) hpath
    refine served_of_extract (fun data hdata hpath => ?_) hpath
    refine served_of_target hresource hsame hdata (fun target hpath => ?_) hpath
    exact served_of_command (.openEditPanel target _) rfl (fun _ => exists_snapshot) howned
      (hwrites (by simp [Resource.methods])) hpath
  · refine served_of_segment hkey (fun name hpath => ?_) hpath
    refine served_of_extract (fun data hdata hpath => ?_) hpath
    exact served_of_command (.submitEdit data.edited data.comment) rfl exists_editResult howned
      (hwrites (by simp [Resource.methods])) hpath
  · refine served_of_segment hkey (fun name hpath => ?_) hpath
    exact served_of_command .cancelEditPanel rfl (fun _ => exists_snapshot) howned
      (hwrites (by simp [Resource.methods])) hpath
  · refine served_of_segment hkey (fun name hpath => ?_) hpath
    exact served_of_command .dismissNotice rfl (fun _ => exists_snapshot) howned
      (hwrites (by simp [Resource.methods])) hpath
  · refine served_of_names hkey (fun name index hpath => ?_) hpath
    exact served_of_command (.startRejection index) rfl (fun _ => exists_snapshot) howned
      (hwrites (by simp [Resource.methods])) hpath
  · refine served_of_names hkey (fun name index hpath => ?_) hpath
    refine served_of_extract (fun data hdata hpath => ?_) hpath
    exact served_of_command (.submitRejection index data.comment) rfl
      (fun _ => exists_told (by decide) _) howned (hwrites (by simp [Resource.methods])) hpath
  · refine served_of_names hkey (fun name index hpath => ?_) hpath
    exact served_of_command (.cancelRejectionPanel index) rfl (fun _ => exists_snapshot) howned
      (hwrites (by simp [Resource.methods])) hpath
  · refine served_of_names hkey (fun name index hpath => ?_) hpath
    exact served_of_command (.accept index) rfl (fun _ => exists_snapshot) howned
      (hwrites (by simp [Resource.methods])) hpath
  · refine served_of_names hkey (fun name index hpath => ?_) hpath
    exact served_of_command (.retract index) rfl (fun _ => exists_snapshot) howned
      (hwrites (by simp [Resource.methods])) hpath
  · refine served_of_names hkey (fun name index hpath => ?_) hpath
    exact served_of_command (.refreshStatus index) rfl (fun _ => exists_told (by decide) _)
      howned (hwrites (by simp [Resource.methods])) hpath
  · cases hkey

end

/-! ## Around the answer -/

/-- The response to what the handling of a request comes to. -/
def respond : Except Failure Response → Response
  | .ok response => response
  | .error failure => failure.response

/-- A response as it is sent: it names its request and tells which origins may read it, and it has
no body if only its header was asked for. -/
def Response.sent (response : Response) (settings : Settings) (request : Request) : Response :=
  ((if request.method = "HEAD" then response.dropBody else response).identify request).addHeaders
    (originHeaders settings request)

@[simp] lemma Response.status_sent (response : Response) (settings : Settings)
    (request : Request) : (response.sent settings request).status = response.status := by
  by_cases hhead : request.method = "HEAD" <;> simp [sent, hhead, addHeaders, identify, dropBody]

lemma Response.body_sent (response : Response) (settings : Settings) (request : Request) :
    (response.sent settings request).body =
      if request.method = "HEAD" then .empty else response.body := by
  by_cases hhead : request.method = "HEAD" <;> simp [sent, hhead, addHeaders, identify, dropBody]

/-- What a request about a pair comes to: it is answered without a look at the server, with an empty
body, or it is served. -/
inductive Handled (now : Nat) (request : Request) (key : SlotKey) (server : Server) :
    List Exchange → Response → Server → Prop where
  | bypassed {response : Response} (hbody : response.body = .empty)
      (hstatus : response.status = 200 ∨ response.status = 405) :
      Handled now request key server [] response server
  | served {exchanges : List Exchange} {answered : Except Failure Response} {after : Registry}
      (hserved : Served now request key server.registry exchanges answered after) :
      Handled now request key server exchanges
        ((respond answered).sent server.settings request) { server with registry := after }

section

variable {now : Nat} {request : Request} {key : SlotKey} {server next : Server}
  {exchanges : List Exchange} {response : Response} {resource : Resource} {viewer : String}

/-- A request that its resource takes is answered on behalf of its viewer. -/
lemma handle_eq (hresource : Resource.ofPath? request.path = some resource)
    (hmethod : request.method ∈ resource.methods) (hoptions : request.method ≠ "OPTIONS")
    (hhealth : resource ≠ .health) (hviewer : request.viewer = .ok viewer) :
    server.handle now request =
      (answer now request resource request.method viewer server.registry).bind
        fun told => .done ((respond told.1).sent server.settings request,
          { server with registry := told.2 }) := by
  have hserve : server.serve now request resource =
      (answer now request resource request.method viewer server.registry).bind
        fun told => .done (respond told.1, { server with registry := told.2 }) := by
    rw [serve, if_neg (by simp [hmethod]), if_neg hhealth, hviewer]
    refine congrArg (Dialogue.bind _) (funext fun told => ?_)
    obtain ⟨answered, registry⟩ := told
    cases answered <;> rfl
  rw [handle, if_neg hoptions, hresource]
  show (server.serve now request resource).bind _ = _
  rw [hserve, Dialogue.bind_assoc]
  rfl

lemma handled_of_path (howned : server.registry.Owned) (haddress : request.address? = some key)
    (hpath : Path (server.handle now request) exchanges (response, next)) :
    Handled now request key server exchanges response next := by
  obtain ⟨resource, viewer, hresource, hviewer, hkey⟩ := address_of_request haddress
  have hhealth : resource ≠ .health := by
    rintro rfl
    cases hkey
  by_cases hoptions : request.method = "OPTIONS"
  · rw [handle, if_pos hoptions] at hpath
    cases hpath
    exact .bypassed rfl (.inl rfl)
  by_cases hmethod : request.method ∈ resource.methods
  · rw [handle_eq hresource hmethod hoptions hhealth hviewer] at hpath
    obtain ⟨front, ⟨answered, after⟩, back, rfl, hanswer, hdone⟩ := path_bind_iff.mp hpath
    cases hdone
    rw [List.append_nil]
    exact .served (served_of_answer howned hresource hmethod rfl hkey hanswer)
  · have hserve : server.serve now request resource =
        .done ((Response.empty 405).addHeaders (allowHeader resource), server) := by
      rw [serve, if_pos (by simp [hmethod])]
      rfl
    rw [handle, if_neg hoptions, hresource] at hpath
    change Path ((server.serve now request resource).bind _) _ _ at hpath
    rw [hserve] at hpath
    cases hpath
    refine .bypassed ?_ (.inr ?_)
    · exact (Response.body_sent _ server.settings request).trans (ite_self _)
    · exact Response.status_sent _ server.settings request

/-! ## Servers that have come to be -/

lemma owned_of_served {registry after : Registry} {answered : Except Failure Response}
    (hserved : Served now request key registry exchanges answered after)
    (howned : registry.Owned) : after.Owned := by
  cases hserved with
  | unreadable => exact howned
  | blank => exact howned
  | mistargeted => exact howned
  | missing => exact howned
  | unmounted => exact howned.of_subset (List.filter_subset_self _) rfl
  | shown hfind => exact howned.touch hfind now
  | written _ hfind => exact howned.touch hfind now
  | mounted _ hpath => exact (Registry.mount_shows howned hpath).1
  | @commanded slot view next command _ _ _ _ hfind hview hpath =>
    have hslot := howned.sound hfind
    obtain ⟨found, hfound, hkey⟩ := Registry.exists_view hslot
    obtain rfl : found = view := Option.some.inj (hfound.symm.trans hview)
    have htouched := howned.touch hfind now
    exact htouched.setView (htouched.sound hfind)
      (Review.keeps_command command key hkey hpath)

lemma owned_of_occurs {event : Event} (hoccurs : Occurs server event next)
    (howned : server.registry.Owned) : next.registry.Owned := by
  cases hoccurs with
  | mounted hpath => exact (Registry.mount_shows howned hpath).1
  | @lookedUp now key slot registry hfound =>
    cases hfind : server.registry.find? key with
    | none =>
      rw [Registry.handle, Registry.get, hfind] at hfound
      cases hfound
    | some found =>
      rw [Registry.handle, Registry.get, hfind] at hfound
      cases hfound
      exact howned.touch hfind now
  | notFound => exact howned
  | unmounted hremoved =>
    cases hremoved
    exact howned.of_subset (List.filter_subset_self _) rfl
  | command hslot hpath =>
    exact howned.perform hslot.1 (Review.keeps_command _ _) hpath
  | @request now request exchanges response _ hpath =>
    cases haddress : request.address? with
    | none =>
      obtain ⟨told, hhandle⟩ := handle_of_unaddressed haddress now server
      rw [hhandle] at hpath
      cases hpath
      exact howned
    | some key =>
      cases handled_of_path howned haddress hpath with
      | bypassed => exact howned
      | served hserved => exact owned_of_served hserved howned

/-- Whatever was done to a server, its mounts are of slots that were made for their pairs. -/
lemma owned_of_reachable (hreachable : Reachable server) : server.registry.Owned := by
  induction hreachable with
  | started => exact Registry.owned_empty
  | occurred _ hoccurs ih => exact owned_of_occurs hoccurs ih
  | swept _ now maxIdle held ih =>
    refine ih.of_subset ?_ rfl
    show (List.partition _ _).2 ⊆ _
    rw [List.partition_eq_filter_filter]
    exact List.filter_subset_self _

/-! ## Asking what is shown -/

/-- The request asks for a pair to be shown something. -/
def Request.Asks (request : Request) (key : SlotKey) (resource : String → Resource) : Prop :=
  request.method = "GET" ∧ request.address? = some key ∧
    ∃ id, Resource.ofPath? request.path = some (resource id)

lemma segment_of_address {id viewer : String} (hkey : segmentKey? viewer id = some key) :
    segmentText id = .ok key.annotationId ∧ viewer = key.viewer := by
  cases hname : segmentText id with
  | error => rw [segmentKey?, hname] at hkey; cases hkey
  | ok name =>
    obtain rfl := key_of_segment hkey hname
    exact ⟨rfl, rfl⟩

/-- What is mounted is shown to whoever asks for it, and nothing is asked of the backend. -/
lemma handle_of_look {resource : String → Resource} {tell : View → Response} {view : View}
    (hallowed : ∀ id, "GET" ∈ (resource id).methods)
    (haddress : ∀ id viewer, (resource id).address? request viewer = segmentKey? viewer id)
    (hanswer : ∀ id viewer, answer now request (resource id) "GET" viewer =
      extract (segmentText id) >>= fun name => lookUp now ⟨viewer, name⟩ >>= fun slot =>
        viewOf slot >>= fun view => pure (tell view))
    (hasks : request.Asks key resource) (hshown : server.registry.shown? key = some view) :
    ∃ response after, server.handle now request = .done (response, after) ∧
      response.status = (tell view).status ∧ response.body = (tell view).body := by
  obtain ⟨hmethod, hasked, id, hpath⟩ := hasks
  obtain ⟨_, viewer, hresource, hviewer, hkey⟩ := address_of_request hasked
  obtain rfl := Option.some.inj (hpath.symm.trans hresource)
  rw [haddress] at hkey
  have hhealth : resource id ≠ .health := by
    intro hsame
    have hnone := haddress id viewer
    rw [hsame, hkey] at hnone
    cases hnone
  obtain ⟨slot, hfind, hview⟩ := Registry.exists_of_shown? hshown
  obtain ⟨hname, rfl⟩ := segment_of_address hkey
  have htold : answer now request (resource id) "GET" key.viewer server.registry =
      .done (.ok (tell view), server.registry.touch now slot) := by
    rw [hanswer, hname]
    show (lookUp now key >>= _) server.registry = _
    rw [lookUp_bind_of_some hfind]
    exact viewOf_bind (by simpa using hview) _
  rw [handle_eq hpath (hmethod ▸ hallowed id) (by simp [hmethod]) hhealth hviewer, hmethod, htold]
  refine ⟨_, _, rfl, Response.status_sent _ _ _, ?_⟩
  rw [Response.body_sent, if_neg (by simp [hmethod])]
  rfl

lemma handle_of_asks {view : View} (hasks : request.Asks key .mounted)
    (hshown : server.registry.shown? key = some view) (now : Nat) :
    ∃ response after, server.handle now request = .done (response, after) ∧
      response.status = 200 ∧ response.body = .json (.object [("data", view.snapshot)]) :=
  handle_of_look (fun _ => by simp [Resource.methods]) (fun _ _ => rfl)
    (fun _ _ => rfl) hasks hshown

lemma handle_of_asks_markup {view : View} (hasks : request.Asks key .markup)
    (hshown : server.registry.shown? key = some view) (now : Nat) :
    ∃ response after, server.handle now request = .done (response, after) ∧
      response.status = 200 ∧ response.body = .html view.render :=
  handle_of_look (fun _ => by simp [Resource.methods]) (fun _ _ => rfl)
    (fun _ _ => rfl) hasks hshown

end

end Host

end AnnotationReview
