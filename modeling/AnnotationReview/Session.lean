import AnnotationReview.Backend.Script
import AnnotationReview.Host.Server
import AnnotationReview.Registry.Custody
import AnnotationReview.Review.Command

/-!
# Sessions

A session is a host over a scripted backend, driven step by step: by requests to the host, and
by operations on the same mounted annotations from inside.  A caller inside may hold on to a
slot by a name, which keeps it from eviction and lets the caller go on working with it after it
was unmounted.  No time passes during a session.
-/

namespace AnnotationReview

open Backend (Call Dialogue Link Script Stand)
open Host (Server)

/-- How a caller names a slot. -/
inductive SlotName where
  | held (name : String)
  | mounted (key : SlotKey)
deriving DecidableEq, Repr

/-- A step of a session. -/
inductive Step where
  /-- Gives the backend a new script. -/
  | script (script : Script)
  | request (request : Host.Request)
  | mount (key : SlotKey) (text : String) (holder? : Option String)
  | hold (key : SlotKey) (holder : String)
  | release (holder : String)
  | unmount (key : SlotKey)
  | evictIdle (maxIdle : Nat)
  | mountedCount
  | command (slot : SlotName) (command : Review.Command)
deriving Repr

/-- What a step other than a request gives. -/
inductive StepResult where
  | done
  | flag (value : Bool)
  | count (n : Nat)
  /-- A slot that somebody holds from now on. -/
  | held
  | command (result : Review.CommandResult)
deriving DecidableEq, Repr

/-- The answer to a step. -/
inductive StepAnswer where
  | response (response : Host.Response)
  /-- A result or an error, and the view the step has left, if it worked on one. -/
  | result (result : Except Review.Error StepResult) (view? : Option View)

/-- A host over a scripted backend, and who holds which slot. -/
structure Session where
  server : Server
  stand : Stand
  holders : Holders
deriving Repr

/-- How a slot that somebody holds is shown. -/
def heldSlotText : String := "AnnotationHandle \x7b .. \x7d"

namespace Session

/-- The time at which every step happens. -/
def now : Nat := 0

/-- Starts a session.  It fails where the host cannot start. -/
def start (link : Link) (backendUrl : String) (origins : List String) (script : Script) :
    Except Host.StartError Session := do
  Host.checkOrigins origins
  let defaults ← Host.Settings.load []
  return {
    server := ⟨{ defaults with backendUrl, origins }, .empty⟩
    stand := ⟨.ofUrl backendUrl, link, script, []⟩
    holders := .empty }

/-- The registry of the session's host. -/
def registry (session : Session) : Registry := session.server.registry

/-- The session with another registry. -/
def setRegistry (session : Session) (registry : Registry) : Session :=
  { session with server := { session.server with registry } }

/-- Carries out a dialogue against the session's backend. -/
def converse {α : Type} (session : Session) (dialogue : Dialogue α) : α × Session :=
  let (value, stand) := dialogue.run Stand.answer session.stand
  (value, { session with stand })

/-- The slot that a caller names, looked up if it is not held. -/
def findSlot (session : Session) : SlotName → Except Review.Error (SlotId × Session)
  | .held name =>
    match session.holders.slot? name with
    | some slot => .ok (slot, session)
    | none => .error (.domain (.notFound "Handle" name))
  | .mounted key =>
    match session.registry.handle now key with
    | .ok (slot, registry) => .ok (slot, session.setRegistry registry)
    | .error error => .error (.domain error)

/-- Takes a step. -/
def take (session : Session) : Step → StepAnswer × Session
  | .script script =>
    (.result (.ok .done) none, { session with stand := { session.stand with script } })
  | .request request =>
    let ((response, server), session) := session.converse (session.server.handle now request)
    (.response response, { session with server })
  | .mount key text holder? =>
    let ((slot, registry), session) :=
      session.converse (session.registry.mount now key text)
    let session := { session.setRegistry registry with
      holders := session.holders.putIf holder? slot }
    (.result (.ok .done) (session.registry.view? slot), session)
  | .hold key holder =>
    match session.findSlot (.mounted key) with
    | .ok (slot, session) =>
      (.result (.ok .held) none, { session with holders := session.holders.put holder slot })
    | .error error => (.result (.error error) none, session)
  | .release holder =>
    (.result (.ok (.flag (session.holders.slot? holder).isSome)) none,
      { session with holders := session.holders.release holder })
  | .unmount key =>
    let (removed, registry) := session.registry.remove key
    (.result (.ok (.flag removed)) none, session.setRegistry registry)
  | .evictIdle maxIdle =>
    let (evicted, registry) := session.registry.evictIdle now maxIdle session.holders.isHeld
    (.result (.ok (.count evicted.length)) none, session.setRegistry registry)
  | .mountedCount => (.result (.ok (.count session.registry.size)) none, session)
  | .command name command =>
    match session.findSlot name with
    | .error error => (.result (.error error) none, session)
    | .ok (slot, session) =>
      let ((result, registry), session) :=
        session.converse (session.registry.perform slot command.operation)
      let session := session.setRegistry registry
      (.result (result.map .command) (session.registry.view? slot), session)

/-- Takes a step and tells the calls that were put to the backend during it. -/
def step (session : Session) (step : Step) : StepAnswer × List Call × Session :=
  let session := { session with stand := { session.stand with calls := [] } }
  let (answer, session) := session.take step
  (answer, session.stand.calls, session)

end Session

end AnnotationReview
