import AnnotationReview.Host.Body
import AnnotationReview.Host.Response
import AnnotationReview.Host.Route
import AnnotationReview.Host.Settings
import AnnotationReview.Host.Snapshot
import AnnotationReview.Host.Viewer
import AnnotationReview.Registry.Operations

/-!
# The host

The host answers requests by operations on mounted annotations.  A request is checked in a fixed
order: path and method, the viewer, the names in the path, the body, and then what the request
asks for.  An operation that succeeds is answered with a fresh snapshot; one that fails leaves
its notice on the view.  Around that, every response tells which origins it may be read from.
-/

namespace AnnotationReview.Host

open Backend (Dialogue)
open Json (Value)

/-- A host with its settings and what is mounted. -/
structure Server where
  settings : Settings
  registry : Registry
deriving Repr

/-- The version that the host reports. -/
def version : String := "0.1.0"

/-- Why a request is not answered with a result. -/
inductive Failure where
  | error (cause : Error)
  | rejection (cause : Rejection)
deriving DecidableEq, Repr

/-- The response to a failure. -/
def Failure.response : Failure → Response
  | .error cause => .ofError cause
  | .rejection cause => .withBody cause.status (.plain cause.message)

namespace Server

/-- A request that is being answered: a computation on the registry that may put calls. -/
def Handling (α : Type) : Type := Registry → Dialogue (Except Failure α × Registry)

namespace Handling

variable {α β : Type}

instance : Monad Handling where
  pure value := fun registry => return (.ok value, registry)
  bind handling f := fun registry => do
    match ← handling registry with
    | (.ok value, registry) => f value registry
    | (.error failure, registry) => return (.error failure, registry)

/-- Gives up. -/
def fail (failure : Failure) : Handling α := fun registry => return (.error failure, registry)

/-- What a check of the host allows. -/
def check (result : Except Error α) : Handling α :=
  match result with
  | .ok value => pure value
  | .error error => fail (.error error)

/-- What a review rule allows. -/
def rule (result : Except DomainError α) : Handling α :=
  check (result.mapError fun error => .review (.domain error))

/-- What can be taken from the request. -/
def extract (result : Except Rejection α) : Handling α :=
  match result with
  | .ok value => pure value
  | .error rejection => fail (.rejection rejection)

/-- The slot of a mounted annotation. -/
def lookUp (now : Nat) (key : SlotKey) : Handling SlotId := fun registry =>
  match registry.handle now key with
  | .ok (slot, registry) => return (.ok slot, registry)
  | .error error => return (.error (.error (.review (.domain error))), registry)

/-- Carries out an operation on a slot. -/
def perform (slot : SlotId) (operation : Review.Operation α) : Handling α := fun registry => do
  match ← registry.perform slot operation with
  | (.ok value, registry) => return (.ok value, registry)
  | (.error error, registry) => return (.error (.error (.review error)), registry)

/-- What a slot shows. -/
def viewOf (slot : SlotId) : Handling View := fun registry =>
  match registry.view? slot with
  | some view => return (.ok view, registry)
  | none =>
    let error := DomainError.notFound "Slot" (toString slot)
    return (.error (.error (.review (.domain error))), registry)

end Handling

open Handling

/-! ## Names in the path -/

/-- The text of a segment. -/
def segmentText (segment : String) : Except Rejection String :=
  match Text.decode? (Url.percentDecode (Text.encode segment)) with
  | some text => .ok text
  | none => .error .badPath

/-- The name of an annotation and the index of an entry. -/
def entryNames (id index : String) : Except Rejection (String × UInt32) := do
  let id ← segmentText id
  let index ← segmentText index
  match Text.readNumeral (Text.greatestWord 32) index with
  | .ok n => return (id, n.toUInt32)
  | .error _ => .error .badPath

/-! ## Answers -/

/-- A fresh snapshot of a slot. -/
def snapshot (slot : SlotId) : Handling Response := do
  let view ← viewOf slot
  return .data 200 view.snapshot

/-- The outcome of an edit with a fresh snapshot. -/
def editResult (outcome : Review.EditOutcome) (view : View) : Value :=
  let (word, entry) : String × Value := match outcome with
    | .unchanged => ("unchanged", .null)
    | .submitted index => ("submitted", indexToJson index)
  .object [("outcome", .string word), ("entry", entry), ("annotation", view.snapshot)]

/-- Mounts an annotation for the viewer. -/
def mount (now : Nat) (viewer : String) (data : MountData) : Handling Response := do
  if (Text.trim data.annotationId).isEmpty then
    fail (.error (.badRequest "annotation_id must not be empty"))
  else
    let slot ← fun registry => do
      let (slot, registry) ← registry.mount now ⟨viewer, data.annotationId⟩ data.text
      return (.ok slot, registry)
    return { ← snapshot slot with status := 201 }

/-- Unmounts an annotation. -/
def unmount (key : SlotKey) : Handling Response := fun registry =>
  let (removed, registry) := registry.remove key
  if removed then return (.ok (.empty 204), registry)
  else
    let error := DomainError.notFound "Annotation" key.annotationId
    return (.error (.error (.review (.domain error))), registry)

/-- What the host tells of itself. -/
def health (settings : Settings) (registry : Registry) : Response :=
  .withBody 200 <| .json <| .object
    [("status", .string "ok"),
      ("version", .string version),
      ("backend_url", .string settings.backendUrl),
      ("mounted_annotations", .nat registry.size)]

/-- Answers a request for a resource other than the host itself on behalf of a viewer; the method
is one that the resource takes. -/
def answer (now : Nat) (request : Request) (resource : Resource) (method : String)
    (viewer : String) : Handling Response := do
  match resource, method with
  | .annotations, _ =>
    mount now viewer (← extract (request.record MountData.read))
  | .mounted id, "DELETE" =>
    unmount ⟨viewer, ← extract (segmentText id)⟩
  | .mounted id, _ =>
    let id ← extract (segmentText id)
    snapshot (← lookUp now ⟨viewer, id⟩)
  | .markup id, _ =>
    let id ← extract (segmentText id)
    let view ← viewOf (← lookUp now ⟨viewer, id⟩)
    return .withBody 200 (.html view.render)
  | .edit id, "POST" =>
    let id ← extract (segmentText id)
    let data ← extract (request.record OpenEditData.read)
    let target ← rule <| match data.target? with
      | some name => EditTarget.parse name
      | none => .ok .naturalLanguage
    let slot ← lookUp now ⟨viewer, id⟩
    perform slot (Review.openEditPanel target (data.placeholder?.getD CommentPurpose.edit.hint))
    snapshot slot
  | .edit id, "PUT" =>
    let id ← extract (segmentText id)
    let data ← extract (request.record EditData.read)
    let slot ← lookUp now ⟨viewer, id⟩
    let outcome ← perform slot (Review.submitEdit data.edited data.comment)
    return .data 200 (editResult outcome (← viewOf slot))
  | .edit id, _ =>
    let id ← extract (segmentText id)
    let slot ← lookUp now ⟨viewer, id⟩
    perform slot Review.cancelEditPanel
    snapshot slot
  | .notice id, _ =>
    let id ← extract (segmentText id)
    let slot ← lookUp now ⟨viewer, id⟩
    perform slot Review.dismissNotice
    snapshot slot
  | .entry id index .reject, "POST" =>
    let (id, index) ← extract (entryNames id index)
    let slot ← lookUp now ⟨viewer, id⟩
    perform slot (Review.startRejection index)
    snapshot slot
  | .entry id index .reject, "PUT" =>
    let (id, index) ← extract (entryNames id index)
    let data ← extract (request.record CommentData.read)
    let slot ← lookUp now ⟨viewer, id⟩
    let reply ← perform slot (Review.submitRejection index data.comment)
    let view ← viewOf slot
    return .data 200 (.object [("entry", indexToJson reply), ("annotation", view.snapshot)])
  | .entry id index .reject, _ =>
    let (id, index) ← extract (entryNames id index)
    let slot ← lookUp now ⟨viewer, id⟩
    perform slot (Review.cancelRejectionPanel index)
    snapshot slot
  | .entry id index .accept, _ =>
    let (id, index) ← extract (entryNames id index)
    let slot ← lookUp now ⟨viewer, id⟩
    perform slot (Review.accept index)
    snapshot slot
  | .entry id index .retract, _ =>
    let (id, index) ← extract (entryNames id index)
    let slot ← lookUp now ⟨viewer, id⟩
    perform slot (Review.retract index)
    snapshot slot
  | .entry id index .refresh, _ =>
    let (id, index) ← extract (entryNames id index)
    let slot ← lookUp now ⟨viewer, id⟩
    let status ← perform slot (Review.refreshStatus index)
    let view ← viewOf slot
    return .data 200 <| .object
      [("status", .ofOption Status.toJson status), ("annotation", view.snapshot)]
  | .health, _ => return .empty 200

/-! ## Around the answers -/

/-- The header fields that tell which origin may read a response. -/
def originHeaders (settings : Settings) (request : Request) : List (String × String) :=
  let allowed : List (String × String) := match request.header? "origin" with
    | some origin =>
      if settings.origins.contains origin then [("access-control-allow-origin", origin)] else []
    | none => []
  ("access-control-allow-credentials", "true") :: allowed

/-- The header fields that tell what may be requested from elsewhere. -/
def preflightHeaders : List (String × String) :=
  [("access-control-allow-methods", "GET,POST,PUT,DELETE"),
    ("access-control-allow-headers", "content-type,cookie,x-access-code"),
    ("access-control-max-age", "3600")]

/-- The header field that tells which methods a resource takes. -/
def allowHeader (resource : Resource) : List (String × String) :=
  [("allow", String.intercalate "," resource.methods)]

/-- The answer to the question what may be requested. -/
def preflight (request : Request) : Response :=
  (Response.empty 200).addHeaders <|
    preflightHeaders ++ match Resource.ofPath? request.path with
      | some resource => allowHeader resource
      | none => []

/-- Answers a request for a resource. -/
def serve (now : Nat) (request : Request) (resource : Resource) (server : Server) :
    Dialogue (Response × Server) := do
  if !resource.methods.contains request.method then
    return ((Response.empty 405).addHeaders (allowHeader resource), server)
  else if resource = .health then
    return (health server.settings server.registry, server)
  else
    let handling : Handling Response := do
      let viewer ← check request.viewer
      answer now request resource request.method viewer
    let (result, registry) ← handling server.registry
    let response := match result with
      | .ok response => response
      | .error failure => failure.response
    return (response, { server with registry })

/-- Answers a request. -/
def handle (now : Nat) (request : Request) (server : Server) : Dialogue (Response × Server) := do
  let headers := originHeaders server.settings request
  if request.method = "OPTIONS" then
    return ((preflight request).addHeaders headers, server)
  else
    let (response, server) ← match Resource.ofPath? request.path with
      | none => pure (Response.empty 404, server)
      | some resource => server.serve now request resource
    let response := if request.method = "HEAD" then response.dropBody else response
    return ((response.identify request).addHeaders headers, server)

end Server

end AnnotationReview.Host
