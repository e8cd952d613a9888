import AnnotationReview.Host.Server
import AnnotationReview.Registry.Handle
import AnnotationReview.Review.Command

/-!
# Runs of a host

What callers do to a host, one after the other: they mount, look up and unmount pairs of a viewer
and an annotation, work on the slots whose handles they were given, and send requests.  No slots are
evicted in a run; a server that is `Reachable` may have been swept in between as well.  Nothing is
assumed of the outcomes of calls to the backend.
-/

namespace AnnotationReview.Host

open Backend (Dialogue)

/-! ## Whom a request is about -/

/-- The pair of the viewer and the annotation that a resource or the body of a request names. -/
def Resource.address? (request : Request) (viewer : String) : Resource → Option SlotKey
  | .health => none
  | .annotations =>
    match request.record MountData.read with
    | .ok data => some ⟨viewer, data.annotationId⟩
    | .error _ => none
  | .mounted id | .markup id | .edit id | .notice id | .entry id _ _ =>
    match Server.segmentText id with
    | .ok id => some ⟨viewer, id⟩
    | .error _ => none

/-- The pair that a request is about; a request that names no viewer, no resource or no annotation
is about none. -/
def Request.address? (request : Request) : Option SlotKey :=
  match Resource.ofPath? request.path, request.viewer with
  | some resource, .ok viewer => resource.address? request viewer
  | _, _ => none

/-! ## Deeds -/

/-- What a caller does. -/
inductive Deed where
  | mount (key : SlotKey) (text : String)
  | lookUp (key : SlotKey)
  | unmount (key : SlotKey)
  | command (handle : Handle) (command : Review.Command)
  | request (request : Request)

/-- The pair that a deed is addressed to. -/
def Deed.address? : Deed → Option SlotKey
  | .mount key _ | .lookUp key | .unmount key => some key
  | .command handle _ => some handle.key
  | .request sent => sent.address?

/-- What a caller is told. -/
inductive Reply where
  /-- A handle, and the view behind it. -/
  | handle (handle : Handle) (view? : Option View)
  | refused (error : DomainError)
  /-- Whether the pair was mounted. -/
  | unmounted (found : Bool)
  /-- The result of a command, and the view it has left. -/
  | result (result : Except Review.Error Review.CommandResult) (view? : Option View)
  | response (response : Response)

/-- A deed at some time, the calls put for it with their outcomes, and what the caller was told. -/
structure Event where
  now : Nat
  deed : Deed
  exchanges : List Dialogue.Exchange
  reply : Reply

/-- A deed may go through some calls and lead from the first server to the second. -/
inductive Occurs (server : Server) : Event → Server → Prop where
  | mounted {now : Nat} {key : SlotKey} {text : String} {exchanges : List Dialogue.Exchange}
      {slot : SlotId} {registry : Registry}
      (hpath : Dialogue.Path (server.registry.mount now key text) exchanges (slot, registry)) :
      Occurs server
        ⟨now, .mount key text, exchanges,
          .handle (registry.handleOf key slot) (registry.view? slot)⟩
        { server with registry }
  | lookedUp {now : Nat} {key : SlotKey} {slot : SlotId} {registry : Registry}
      (hfound : server.registry.handle now key = .ok (slot, registry)) :
      Occurs server
        ⟨now, .lookUp key, [], .handle (registry.handleOf key slot) (registry.view? slot)⟩
        { server with registry }
  | notFound {now : Nat} {key : SlotKey} {error : DomainError}
      (hmissing : server.registry.handle now key = .error error) :
      Occurs server ⟨now, .lookUp key, [], .refused error⟩ server
  | unmounted {now : Nat} {key : SlotKey} {found : Bool} {registry : Registry}
      (hremoved : server.registry.remove key = (found, registry)) :
      Occurs server ⟨now, .unmount key, [], .unmounted found⟩ { server with registry }
  | command {now : Nat} {handle : Handle} {command : Review.Command}
      {exchanges : List Dialogue.Exchange} {slot : SlotId}
      {result : Except Review.Error Review.CommandResult} {registry : Registry}
      (hslot : server.registry.Holds handle slot)
      (hpath : Dialogue.Path (server.registry.perform slot command.operation) exchanges
        (result, registry)) :
      Occurs server ⟨now, .command handle command, exchanges, .result result (registry.view? slot)⟩
        { server with registry }
  | request {now : Nat} {request : Request} {exchanges : List Dialogue.Exchange}
      {response : Response} {next : Server}
      (hpath : Dialogue.Path (server.handle now request) exchanges (response, next)) :
      Occurs server ⟨now, .request request, exchanges, .response response⟩ next

/-- The events may lead from the first server to the second. -/
inductive Run : Server → List Event → Server → Prop where
  | nil (server : Server) : Run server [] server
  | cons {first next last : Server} {event : Event} {events : List Event}
      (head : Occurs first event next) (tail : Run next events last) :
      Run first (event :: events) last

/-- What a server may be like at some time after its start.  A sweep may find anything idle,
whatever is held then. -/
inductive Reachable : Server → Prop where
  | started (settings : Settings) : Reachable ⟨settings, .empty⟩
  | occurred {server next : Server} {event : Event} (hreachable : Reachable server)
      (hoccurs : Occurs server event next) : Reachable next
  | swept {server : Server} (hreachable : Reachable server) (now maxIdle : Nat)
      (held : SlotId → Bool) :
      Reachable { server with registry := (server.registry.evictIdle now maxIdle held).2 }

end AnnotationReview.Host
