import AnnotationReview.Host.Run
import AnnotationReview.Proofs.Registry
import AnnotationReview.Proofs.Run

/-!
# What is done for one pair

A computation on the registry is confined to a pair if it moves nothing else and would go the same
way were that pair the only one: it puts the same calls, comes to the same result and leaves what
would be left then.  Operations on a slot are confined to the pair of the slot, and from that the
handling of a request is put together step by step.
-/

namespace AnnotationReview

open Backend (Dialogue)
open Backend.Dialogue (Exchange Path path_bind_iff)

/-! ## Whose view an operation leaves -/

namespace Review

variable {α : Type} {key : SlotKey}

/-- A view of the pair is still one of that pair when the operation is done. -/
def Operation.Keeps (operation : Operation α) (key : SlotKey) : Prop :=
  ∀ {now next : View} {exchanges : List Exchange} {result : Except Error α},
    now.key = key → Path (operation now) exchanges (result, next) → next.key = key

/-- No command gives a view to somebody else, or makes it a view of something else. -/
lemma key_of_course {now next : View} {command : Command} {exchanges : List Exchange}
    {result : Except Error CommandResult}
    (hcourse : Course now command exchanges result next) : next.key = now.key := by
  cases hcourse with
  | refreshed hget hlookUp =>
    obtain ⟨status?, notice, hsettled, -⟩ := hlookUp.exists_settled
    rw [hsettled]
    rfl
  | editSaved hedit hget hlookUp =>
    obtain ⟨status?, notice, hsettled, -⟩ := hlookUp.exists_settled
    rw [hsettled]
    rfl
  | rejectionSaved hreply rejected hget hlookUp =>
    obtain ⟨status?, notice, hsettled, -⟩ := hlookUp.exists_settled
    rw [hsettled]
    cases rejected <;> rfl
  | _ => rfl

lemma keeps_command (command : Command) (key : SlotKey) : command.operation.Keeps key := by
  intro now next exchanges result hkey hpath
  rw [key_of_course (course_of_path hpath), hkey]

lemma keeps_of_map {β : Type} {operation : Operation α} (f : α → β)
    (hkeeps : (operation.map f).Keeps key) : operation.Keeps key := by
  intro now next exchanges result hkey hpath
  have hmapped : Path (operation.map f now) (exchanges ++ []) (result.map f, next) :=
    path_bind_iff.mpr ⟨exchanges, _, [], rfl, hpath, .done _⟩
  exact hkeeps hkey hmapped

/-- An operation that a command stands for keeps what the command keeps. -/
lemma keeps_of_command {operation : Operation α} {f : α → CommandResult} (command : Command)
    (key : SlotKey) (hcommand : operation.map f = command.operation) : operation.Keeps key :=
  keeps_of_map f (hcommand ▸ keeps_command command key)

lemma keeps_mount (key : SlotKey) (text : String) :
    (mount key.annotationId key.viewer text).Keeps key := by
  intro now next exchanges result _ hpath
  obtain ⟨thread, notice, rfl⟩ := (mountedAs_of_mounts ⟨now, result, hpath⟩).fresh
  rfl

end Review

namespace Registry

variable {α : Type} {key : SlotKey} {registry : Registry} {slot : SlotId}

/-! ## Confined computations -/

/-- The computation on the registry moves nothing but a pair, and the other one goes the same way
where there is nothing but that pair. -/
def Confined (key : SlotKey) (registry : Registry) (whole own : Registry → Dialogue (α × Registry)) :
    Prop :=
  ∀ {exchanges : List Exchange} {result : α} {after : Registry},
    Path (whole registry) exchanges (result, after) →
      Moves key registry after ∧ Path (own (registry.only key)) exchanges (result, after.only key)

/-- An operation on a slot is confined to the pair of the slot. -/
lemma confined_perform {operation : Review.Operation α} (hsound : registry.Sound)
    (hslot : registry.keys[slot]? = some key) (hkeeps : operation.Keeps key) :
    Confined key registry (fun registry => registry.perform slot operation)
      (fun own => own.perform (registry.rank key slot) operation) := by
  intro exchanges result after hpath
  obtain ⟨view, hview, hkey⟩ := exists_view hslot
  change Path (registry.perform slot operation) _ _ at hpath
  rw [perform_eq hview] at hpath
  obtain ⟨front, ⟨told, left⟩, back, rfl, hfront, hback⟩ := path_bind_iff.mp hpath
  cases hback
  have hleft := hkeeps hkey hfront
  refine ⟨moves_setView hsound hslot hleft, ?_⟩
  show Path ((registry.only key).perform (registry.rank key slot) operation) _ _
  rw [perform_eq ((view?_only hslot).trans hview)]
  refine path_bind_iff.mpr ⟨front, _, [], rfl, hfront, ?_⟩
  rw [only_setView hslot hleft]
  exact .done _

/-! ## Slots that are looked up and mounted -/

/-- Looking up a pair gives its own slot, under the rank it has, or is refused in the same words. -/
lemma handle_only (hsound : registry.Sound) (now : Nat) (key : SlotKey) :
    (registry.only key).handle now key =
      (registry.handle now key).map fun (slot, after) => (after.rank key slot, after.only key) := by
  rw [handle, handle, get_only hsound]
  cases hget : registry.get now key with
  | none => rfl
  | some found =>
    obtain ⟨hslot, hmoves⟩ := moves_get hsound hget
    show Except.ok (_, _) = Except.ok (_, _)
    rw [hmoves.rank_eq hslot]

lemma moves_handle (hsound : registry.Sound) {now : Nat} {after : Registry}
    (hfound : registry.handle now key = .ok (slot, after)) :
    after.keys[slot]? = some key ∧ Moves key registry after := by
  rw [handle] at hfound
  cases hget : registry.get now key with
  | none => rw [hget] at hfound; cases hfound
  | some found =>
    rw [hget] at hfound
    cases hfound
    obtain ⟨hslot, hmoves⟩ := moves_get hsound hget
    exact ⟨hmoves.keys_eq hslot, hmoves⟩

/-- A slot is found or made for its pair only. -/
lemma getOrInsert_only (hsound : registry.Sound) {now : Nat} {view : View} (hview : view.key = key)
    {made : Bool} {after : Registry}
    (hgot : registry.getOrInsert now key view = (slot, made, after)) :
    after.keys[slot]? = some key ∧ Moves key registry after ∧
      (registry.only key).getOrInsert now key view =
        (after.rank key slot, made, after.only key) := by
  cases hfind : registry.find? key with
  | none =>
    rw [getOrInsert_of_none hfind] at hgot
    cases hgot
    have hmade : Slot.key ⟨view, now⟩ = key := hview
    have hmoves := moves_add hsound hfind hmade
    refine ⟨hmoves.sound (find?_add_self hfind), hmoves, ?_⟩
    have hnone : (registry.only key).find? key = none := by rw [find?_only, hfind]; rfl
    rw [getOrInsert_of_none hnone, only_add hfind hmade, rank_add_of_le hmade (Nat.le_refl _),
      rank_length]
  | some found =>
    rw [getOrInsert_of_some hfind] at hgot
    cases hgot
    have hslot := hsound hfind
    have hmoves := moves_touch hsound hslot now
    refine ⟨hmoves.keys_eq hslot, hmoves, ?_⟩
    have hsome : (registry.only key).find? key = some (registry.rank key slot) := by
      rw [find?_only, hfind]; rfl
    rw [getOrInsert_of_some hsome, only_touch hslot, hmoves.rank_eq hslot]

lemma mount_eq {now : Nat} {text : String} {made : Bool} {middle : Registry}
    (hgot : registry.getOrInsert now key (.fresh key.annotationId key.viewer text) =
      (slot, made, middle)) :
    registry.mount now key text =
      (middle.perform slot (Review.mount key.annotationId key.viewer text)).bind
        fun (_, registry) => .done (slot, registry) := by
  simp only [mount, hgot]
  rfl

/-- A mount is confined to its pair, and its slot has the rank that it would have. -/
lemma mount_only (hsound : registry.Sound) {now : Nat} {text : String}
    {exchanges : List Exchange} {after : Registry}
    (hpath : Path (registry.mount now key text) exchanges (slot, after)) :
    after.keys[slot]? = some key ∧ Moves key registry after ∧
      Path ((registry.only key).mount now key text) exchanges
        (after.rank key slot, after.only key) := by
  have hfresh : (View.fresh key.annotationId key.viewer text).key = key := rfl
  obtain ⟨⟨found, made, middle⟩, hgot⟩ :
    ∃ got, registry.getOrInsert now key (.fresh key.annotationId key.viewer text) = got := ⟨_, rfl⟩
  obtain ⟨hfound, hmiddle, hgotOnly⟩ := getOrInsert_only hsound hfresh hgot
  rw [mount_eq hgot] at hpath
  obtain ⟨front, ⟨told, left⟩, back, rfl, hfront, hback⟩ := path_bind_iff.mp hpath
  cases hback
  obtain ⟨hleft, hown⟩ :=
    confined_perform hmiddle.sound hfound (Review.keeps_mount key text) hfront
  refine ⟨hleft.keys_eq hfound, hmiddle.trans hleft, ?_⟩
  rw [mount_eq hgotOnly, hleft.rank_eq hfound]
  exact path_bind_iff.mpr ⟨front, _, [], rfl, hown, .done _⟩

end Registry

/-! ## Answering a request -/

namespace Host.Server.Handling

open Registry (Confined Moves)

variable {α β : Type} {key : SlotKey} {now : Nat}

/-- The handling is confined to a pair. -/
def Alone (key : SlotKey) (handling : Handling α) : Prop :=
  ∀ {registry : Registry}, registry.Sound → Confined key registry handling handling

/-- The handling works on a slot that it is given and is confined to the pair of that slot. -/
def OnSlot (key : SlotKey) (body : SlotId → Handling α) : Prop :=
  ∀ {registry : Registry} {slot : SlotId}, registry.Sound → registry.keys[slot]? = some key →
    Confined key registry (body slot) (body (registry.rank key slot))

/-- The handling is confined to a pair and comes to a slot of it. -/
def Hands (key : SlotKey) (handling : Handling SlotId) : Prop :=
  ∀ {registry after : Registry} {exchanges : List Exchange} {result : Except Failure SlotId},
    registry.Sound → Path (handling registry) exchanges (result, after) →
      Moves key registry after ∧ (∀ slot, result = .ok slot → after.keys[slot]? = some key) ∧
        Path (handling (registry.only key)) exchanges (result.map (after.rank key), after.only key)

lemma alone_pure (key : SlotKey) (value : α) : Alone key (pure value) := by
  intro registry hsound exchanges result after hpath
  cases hpath
  exact ⟨.refl hsound key, .done _⟩

lemma alone_fail (key : SlotKey) (failure : Failure) : Alone key (fail failure : Handling α) := by
  intro registry hsound exchanges result after hpath
  cases hpath
  exact ⟨.refl hsound key, .done _⟩

lemma alone_extract {result : Except Rejection α} {f : α → Handling β}
    (hok : ∀ value, result = .ok value → Alone key (f value)) :
    Alone key (extract result >>= f) := by
  cases result with
  | ok value => exact hok value rfl
  | error rejection => exact alone_fail key _

lemma alone_check {result : Except Error α} {f : α → Handling β}
    (hok : ∀ value, result = .ok value → Alone key (f value)) :
    Alone key (check result >>= f) := by
  cases result with
  | ok value => exact hok value rfl
  | error error => exact alone_fail key _

/-- The end of a handling in two parts comes from the second part or from a failure in the first. -/
lemma path_bind_cases {handling : Handling α} {f : α → Handling β} {registry after : Registry}
    {exchanges : List Exchange} {result : Except Failure β}
    (hpath : Path ((handling >>= f) registry) exchanges (result, after)) :
    (∃ front back value middle, exchanges = front ++ back ∧
        Path (handling registry) front (.ok value, middle) ∧
        Path (f value middle) back (result, after)) ∨
      ∃ failure, result = .error failure ∧
        Path (handling registry) exchanges (.error failure, after) := by
  obtain ⟨front, ⟨told, middle⟩, back, rfl, hfront, hback⟩ := path_bind_iff.mp hpath
  cases told with
  | ok value => exact .inl ⟨front, back, value, middle, rfl, hfront, hback⟩
  | error failure =>
    cases hback
    exact .inr ⟨failure, rfl, by simpa using hfront⟩

lemma path_bind_of_ok {handling : Handling α} {f : α → Handling β}
    {registry middle after : Registry} {front back : List Exchange} {value : α}
    {result : Except Failure β} (hfront : Path (handling registry) front (.ok value, middle))
    (hback : Path (f value middle) back (result, after)) :
    Path ((handling >>= f) registry) (front ++ back) (result, after) :=
  path_bind_iff.mpr ⟨front, _, back, rfl, hfront, hback⟩

lemma path_bind_of_error {handling : Handling α} {f : α → Handling β}
    {registry after : Registry} {exchanges : List Exchange} {failure : Failure}
    (hfront : Path (handling registry) exchanges (.error failure, after)) :
    Path ((handling >>= f) registry) exchanges (.error failure, after) :=
  path_bind_iff.mpr ⟨exchanges, _, [], (List.append_nil _).symm, hfront, .done _⟩

lemma OnSlot.bind {first : SlotId → Handling α} {f : α → SlotId → Handling β}
    (hfirst : OnSlot key first) (hthen : ∀ value, OnSlot key (f value)) :
    OnSlot key fun slot => first slot >>= fun value => f value slot := by
  intro registry slot hsound hslot exchanges result after hpath
  obtain ⟨front, back, value, middle, rfl, hfront, hback⟩ | ⟨failure, rfl, hfailed⟩ :=
    path_bind_cases hpath
  · obtain ⟨hmiddle, hownFront⟩ := hfirst hsound hslot hfront
    obtain ⟨hafter, hownBack⟩ :=
      hthen value hmiddle.sound (hmiddle.keys_eq hslot) hback
    rw [hmiddle.rank_eq hslot] at hownBack
    exact ⟨hmiddle.trans hafter, path_bind_of_ok hownFront hownBack⟩
  · obtain ⟨hafter, hown⟩ := hfirst hsound hslot hfailed
    exact ⟨hafter, path_bind_of_error hown⟩

lemma Hands.bind {handling : Handling SlotId} {body : SlotId → Handling α}
    (hhands : Hands key handling) (hbody : OnSlot key body) : Alone key (handling >>= body) := by
  intro registry hsound exchanges result after hpath
  obtain ⟨front, back, slot, middle, rfl, hfront, hback⟩ | ⟨failure, rfl, hfailed⟩ :=
    path_bind_cases hpath
  · obtain ⟨hmiddle, hslot, hownFront⟩ := hhands hsound hfront
    obtain ⟨hafter, hownBack⟩ := hbody hmiddle.sound (hslot slot rfl) hback
    exact ⟨hmiddle.trans hafter, path_bind_of_ok hownFront hownBack⟩
  · obtain ⟨hafter, -, hown⟩ := hhands hsound hfailed
    exact ⟨hafter, path_bind_of_error hown⟩

lemma onSlot_pure (key : SlotKey) (value : α) : OnSlot key fun _ => pure value :=
  fun hsound _ => alone_pure key value hsound

lemma onSlot_viewOf (key : SlotKey) : OnSlot key viewOf := by
  intro registry slot hsound hslot exchanges result after hpath
  obtain ⟨view, hview, -⟩ := Registry.exists_view hslot
  have hown := (Registry.view?_only hslot).trans hview
  rw [viewOf, hview] at hpath
  cases hpath
  rw [viewOf, hown]
  exact ⟨.refl hsound key, .done _⟩

lemma onSlot_perform {operation : Review.Operation α} (hkeeps : operation.Keeps key) :
    OnSlot key fun slot => perform slot operation := by
  intro registry slot hsound hslot exchanges result after hpath
  obtain ⟨front, ⟨told, left⟩, back, rfl, hfront, hback⟩ := path_bind_iff.mp hpath
  obtain ⟨hleft, hown⟩ := Registry.confined_perform hsound hslot hkeeps hfront
  cases told <;> cases hback <;>
    exact ⟨hleft, path_bind_iff.mpr ⟨front, _, [], rfl, hown, .done _⟩⟩

/-- An operation is told about together with the view that it has left. -/
lemma onSlot_report {operation : Review.Operation α} (hkeeps : operation.Keeps key)
    (tell : α → View → β) :
    OnSlot key fun slot => do
      let value ← perform slot operation
      let view ← viewOf slot
      return tell value view :=
  OnSlot.bind (onSlot_perform hkeeps) fun value =>
    OnSlot.bind (onSlot_viewOf key) fun view => onSlot_pure key (tell value view)

lemma onSlot_show (key : SlotKey) (tell : View → β) :
    OnSlot key fun slot => do return tell (← viewOf slot) :=
  OnSlot.bind (onSlot_viewOf key) fun view => onSlot_pure key (tell view)

lemma hands_lookUp (now : Nat) (key : SlotKey) : Hands key (lookUp now key) := by
  intro registry after exchanges result hsound hpath
  have hown := Registry.handle_only hsound now key
  cases hfound : registry.handle now key with
  | error error =>
    rw [hfound] at hown
    rw [lookUp, hfound] at hpath
    cases hpath
    rw [lookUp, hown]
    exact ⟨.refl hsound key, by rintro _ ⟨⟩, .done _⟩
  | ok found =>
    obtain ⟨slot, middle⟩ := found
    rw [hfound] at hown
    rw [lookUp, hfound] at hpath
    cases hpath
    obtain ⟨hslot, hmoves⟩ := Registry.moves_handle hsound hfound
    rw [lookUp, hown]
    refine ⟨hmoves, ?_, .done _⟩
    rintro _ ⟨⟩
    exact hslot

/-- The slot of a mount. -/
lemma hands_mount (now : Nat) (key : SlotKey) (text : String) :
    Hands key fun registry => do
      let (slot, registry) ← registry.mount now key text
      return (.ok slot, registry) := by
  intro registry after exchanges result hsound hpath
  obtain ⟨front, ⟨slot, left⟩, back, rfl, hfront, hback⟩ := path_bind_iff.mp hpath
  cases hback
  obtain ⟨hslot, hmoves, hown⟩ := Registry.mount_only hsound hfront
  refine ⟨hmoves, ?_, path_bind_iff.mpr ⟨front, _, [], rfl, hown, .done _⟩⟩
  rintro _ ⟨⟩
  exact hslot

end Host.Server.Handling

namespace Host

open Server Server.Handling

variable {key : SlotKey} {viewer id method : String} {request : Request} {resource : Resource}

/-- The pair of a viewer and the annotation that a segment names. -/
def segmentKey? (viewer id : String) : Option SlotKey :=
  match segmentText id with
  | .ok id => some ⟨viewer, id⟩
  | .error _ => none

lemma key_of_segment {name : String} (hkey : segmentKey? viewer id = some key)
    (hname : segmentText id = .ok name) : key = ⟨viewer, name⟩ := by
  rw [segmentKey?, hname] at hkey
  exact (Option.some.inj hkey).symm

lemma segment_of_entryNames {index name : String} {number : UInt32}
    (hnames : entryNames id index = .ok (name, number)) : segmentText id = .ok name := by
  rw [entryNames] at hnames
  cases hid : segmentText id with
  | error => rw [hid] at hnames; cases hnames
  | ok found =>
    rw [hid] at hnames
    cases hindex : segmentText index with
    | error => rw [hindex] at hnames; cases hnames
    | ok digits =>
      rw [hindex] at hnames
      cases hnumber : Text.readNumeral (Text.greatestWord 32) digits with
      | error => simp [bind, Except.bind, hnumber] at hnames
      | ok n =>
        simp only [bind, Except.bind, hnumber] at hnames
        cases hnames
        rfl

/-- What is done for a segment is done for the pair that it names. -/
lemma alone_segment {α : Type} {body : String → Handling α}
    (hkey : segmentKey? viewer id = some key)
    (hbody : ∀ name, Alone ⟨viewer, name⟩ (body name)) :
    Alone key (extract (segmentText id) >>= body) := by
  refine alone_extract fun name hname => ?_
  rw [key_of_segment hkey hname]
  exact hbody name

lemma alone_names {α : Type} {index : String} {body : String × UInt32 → Handling α}
    (hkey : segmentKey? viewer id = some key)
    (hbody : ∀ name number, Alone ⟨viewer, name⟩ (body (name, number))) :
    Alone key (extract (entryNames id index) >>= body) := by
  refine alone_extract fun (name, number) hnames => ?_
  rw [key_of_segment hkey (segment_of_entryNames hnames)]
  exact hbody name number

lemma onSlot_snapshot (key : SlotKey) : OnSlot key snapshot :=
  onSlot_show key _

/-- A command on a mounted annotation, answered with what it came to and the view that is left. -/
lemma alone_command {α β : Type} {operation : Review.Operation α} {f : α → Review.CommandResult}
    (command : Review.Command) (hcommand : operation.map f = command.operation) (now : Nat)
    (key : SlotKey) (tell : α → View → β) :
    Alone key do
      let slot ← lookUp now key
      let value ← perform slot operation
      let view ← viewOf slot
      return tell value view :=
  Hands.bind (hands_lookUp now key)
    (onSlot_report (Review.keeps_of_command command key hcommand) tell)

lemma alone_unmount (key : SlotKey) : Alone key (unmount key) := by
  intro registry hsound exchanges result after hpath
  obtain ⟨⟨found, left⟩, hremoved⟩ : ∃ got, registry.remove key = got := ⟨_, rfl⟩
  have hown := Registry.remove_only registry key
  have hmoves := Registry.moves_remove hsound key
  rw [hremoved] at hown hmoves
  rw [unmount, hremoved] at hpath
  rw [unmount, hown]
  cases found <;> cases hpath <;> exact ⟨hmoves, .done _⟩

lemma alone_mount (now : Nat) (data : MountData) :
    Alone ⟨viewer, data.annotationId⟩ (mount now viewer data) := by
  rw [mount]
  split
  · exact alone_fail _ _
  · exact Hands.bind (hands_mount now _ _)
      (OnSlot.bind (onSlot_snapshot _) fun response => onSlot_pure _ { response with status := 201 })

/-- Whatever is asked of a mounted annotation is confined to its pair. -/
lemma alone_answer (now : Nat) (method : String)
    (hkey : resource.address? request viewer = some key) :
    Alone key (answer now request resource method viewer) := by
  unfold answer
  -- one case for each resource and method, in the order of `answer`
  split
  · refine alone_extract fun data hdata => ?_
    rw [Resource.address?, hdata] at hkey
    obtain rfl := Option.some.inj hkey
    exact alone_mount now data
  · exact alone_segment hkey fun name => alone_unmount _
  · exact alone_segment hkey fun name => Hands.bind (hands_lookUp now _) (onSlot_snapshot _)
  · exact alone_segment hkey fun name => Hands.bind (hands_lookUp now _) (onSlot_show _ _)
  · refine alone_segment hkey fun name => alone_extract fun data _ => alone_check fun target _ => ?_
    exact alone_command (.openEditPanel target _) rfl now _ _
  · refine alone_segment hkey fun name => alone_extract fun data _ => ?_
    exact alone_command (.submitEdit data.edited data.comment) rfl now _ _
  · exact alone_segment hkey fun name => alone_command .cancelEditPanel rfl now _ _
  · exact alone_segment hkey fun name => alone_command .dismissNotice rfl now _ _
  · exact alone_names hkey fun name index => alone_command (.startRejection index) rfl now _ _
  · refine alone_names hkey fun name index => alone_extract fun data _ => ?_
    exact alone_command (.submitRejection index data.comment) rfl now _ _
  · exact alone_names hkey fun name index =>
      alone_command (.cancelRejectionPanel index) rfl now _ _
  · exact alone_names hkey fun name index => alone_command (.accept index) rfl now _ _
  · exact alone_names hkey fun name index => alone_command (.retract index) rfl now _ _
  · exact alone_names hkey fun name index => alone_command (.refreshStatus index) rfl now _ _
  · exact alone_pure key _

/-! ## Requests about a pair -/

/-- The server as it would be if it had served one pair only. -/
def Server.only (server : Server) (key : SlotKey) : Server :=
  { server with registry := server.registry.only key }

variable {server after : Server} {now : Nat} {exchanges : List Exchange} {response : Response}

lemma address_of_request (haddress : request.address? = some key) :
    ∃ resource viewer, Resource.ofPath? request.path = some resource ∧
      request.viewer = .ok viewer ∧ resource.address? request viewer = some key := by
  rw [Request.address?] at haddress
  cases hresource : Resource.ofPath? request.path with
  | none => rw [hresource] at haddress; cases haddress
  | some resource =>
    cases hviewer : request.viewer with
    | error => rw [hresource, hviewer] at haddress; cases haddress
    | ok viewer =>
      rw [hresource, hviewer] at haddress
      exact ⟨resource, viewer, rfl, rfl, haddress⟩

lemma serve_only (hsound : server.registry.Sound) (hviewer : request.viewer = .ok viewer)
    (hkey : resource.address? request viewer = some key)
    (hpath : Path (server.serve now request resource) exchanges (response, after)) :
    after.settings = server.settings ∧ Registry.Moves key server.registry after.registry ∧
      Path ((server.only key).serve now request resource) exchanges (response, after.only key) := by
  have hhealth : resource ≠ .health := by
    rintro rfl
    cases hkey
  rw [serve] at hpath ⊢
  by_cases hmethod : (!resource.methods.contains request.method) = true
  · rw [if_pos hmethod] at hpath ⊢
    cases hpath
    exact ⟨rfl, .refl hsound key, .done _⟩
  · rw [if_neg hmethod, if_neg hhealth, hviewer] at hpath ⊢
    obtain ⟨front, ⟨result, left⟩, back, rfl, hfront, hback⟩ := path_bind_iff.mp hpath
    cases hback
    obtain ⟨hmoves, hown⟩ := alone_answer now request.method hkey hsound hfront
    exact ⟨rfl, hmoves, path_bind_iff.mpr ⟨front, _, [], rfl, hown, .done _⟩⟩

/-- A request about a pair is answered as if there were no other. -/
lemma handle_only (hsound : server.registry.Sound) (haddress : request.address? = some key)
    (hpath : Path (server.handle now request) exchanges (response, after)) :
    after.settings = server.settings ∧ Registry.Moves key server.registry after.registry ∧
      Path ((server.only key).handle now request) exchanges (response, after.only key) := by
  obtain ⟨resource, viewer, hresource, hviewer, hkey⟩ := address_of_request haddress
  rw [handle] at hpath ⊢
  by_cases hoptions : request.method = "OPTIONS"
  · rw [if_pos hoptions] at hpath ⊢
    cases hpath
    exact ⟨rfl, .refl hsound key, .done _⟩
  · rw [if_neg hoptions, hresource] at hpath ⊢
    obtain ⟨front, ⟨served, left⟩, back, rfl, hfront, hback⟩ := path_bind_iff.mp hpath
    cases hback
    obtain ⟨hsettings, hmoves, hown⟩ := serve_only hsound hviewer hkey hfront
    exact ⟨hsettings, hmoves, path_bind_iff.mpr ⟨front, _, [], rfl, hown, .done _⟩⟩

/-! ## Requests about no pair -/

lemma segment_of_none (hkey : segmentKey? viewer id = none) :
    ∃ rejection, segmentText id = .error rejection := by
  cases hname : segmentText id with
  | error rejection => exact ⟨rejection, rfl⟩
  | ok name =>
    rw [segmentKey?, hname] at hkey
    cases hkey

lemma names_of_none {index : String} (hkey : segmentKey? viewer id = none) :
    ∃ rejection, entryNames id index = .error rejection := by
  obtain ⟨rejection, hid⟩ := segment_of_none hkey
  exact ⟨rejection, by rw [entryNames, hid]; rfl⟩

lemma fails_of_extract {α β : Type} {result : Except Rejection α} {f : α → Handling β}
    (hresult : ∃ rejection, result = .error rejection) :
    ∃ failure, (extract result >>= f) = fail failure := by
  obtain ⟨rejection, rfl⟩ := hresult
  exact ⟨.rejection rejection, rfl⟩

/-- Who names no annotation is told so, whatever is asked for. -/
lemma answer_of_unaddressed (hkey : resource.address? request viewer = none)
    (hhealth : resource ≠ .health) (now : Nat) (method : String) :
    ∃ failure, answer now request resource method viewer = fail failure := by
  unfold answer
  split
  case h_1 =>
    refine fails_of_extract ?_
    cases hdata : request.record MountData.read with
    | error rejection => exact ⟨rejection, rfl⟩
    | ok data =>
      rw [Resource.address?, hdata] at hkey
      cases hkey
  case h_15 => exact absurd rfl hhealth
  all_goals first
    | exact fails_of_extract (segment_of_none hkey)
    | exact fails_of_extract (names_of_none hkey)

lemma serve_of_unaddressed (hkey : ∀ viewer, request.viewer = .ok viewer →
      resource.address? request viewer = none) (now : Nat) (server : Server) :
    ∃ response, server.serve now request resource = .done (response, server) := by
  rw [serve]
  by_cases hmethod : (!resource.methods.contains request.method) = true
  · rw [if_pos hmethod]
    exact ⟨_, rfl⟩
  rw [if_neg hmethod]
  by_cases hhealth : resource = .health
  · rw [if_pos hhealth]
    exact ⟨_, rfl⟩
  rw [if_neg hhealth]
  cases hviewer : request.viewer with
  | error error => exact ⟨_, rfl⟩
  | ok viewer =>
    obtain ⟨failure, hfails⟩ :=
      answer_of_unaddressed (hkey viewer hviewer) hhealth now request.method
    show ∃ response, (answer now request resource request.method viewer server.registry).bind _ = _
    rw [hfails]
    exact ⟨_, rfl⟩

/-- A request about no pair is answered at once, and the server is left as it is. -/
lemma handle_of_unaddressed (haddress : request.address? = none) (now : Nat) (server : Server) :
    ∃ response, server.handle now request = .done (response, server) := by
  rw [handle]
  by_cases hoptions : request.method = "OPTIONS"
  · rw [if_pos hoptions]
    exact ⟨_, rfl⟩
  rw [if_neg hoptions]
  cases hresource : Resource.ofPath? request.path with
  | none => exact ⟨_, rfl⟩
  | some resource =>
    have hkey : ∀ viewer, request.viewer = .ok viewer →
        resource.address? request viewer = none := by
      intro viewer hviewer
      rw [Request.address?, hresource, hviewer] at haddress
      exact haddress
    obtain ⟨response, hserved⟩ := serve_of_unaddressed hkey now server
    show ∃ response, (server.serve now request resource).bind _ = _
    rw [hserved]
    exact ⟨_, rfl⟩

end Host

end AnnotationReview
