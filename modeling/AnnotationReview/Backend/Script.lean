import AnnotationReview.Backend.Answer
import AnnotationReview.Backend.Client
import AnnotationReview.Backend.Dialogue

/-!
# A scripted backend

A stand-in for the backend answers every call by the first rule that fits it.  The way to it is
part of the model: requests travel over a `Link`, and a link that is down loses them before they
arrive.
-/

namespace AnnotationReview.Backend

/-- What the stand-in does with a call. -/
inductive Reply where
  | response (status : Nat) (body : Bytes)
  /-- The connection is closed without a response. -/
  | drop
  /-- The call breaks down before a request is made. -/
  | panic (message : String)
deriving DecidableEq, Repr

/-- A reply for certain calls. -/
structure Rule where
  endpoint : String
  /-- The subject of the calls it is for; without one, any. -/
  subject? : Option String
  /-- How often the rule still applies; without a number, always. -/
  times? : Option Nat
  reply : Reply
deriving DecidableEq, Repr

/-- Rules, the first that fits deciding. -/
abbrev Script := List Rule

/-- The rule fits a call and is not used up. -/
def Rule.fits (rule : Rule) (query : Query) : Bool :=
  rule.endpoint == query.endpoint &&
    rule.subject?.all (· == query.subject) &&
    rule.times?.all (0 < ·)

/-- The rule after it was applied once. -/
def Rule.use (rule : Rule) : Rule :=
  { rule with times? := rule.times?.map (· - 1) }

/-- What a call gets when no rule fits. -/
def noRule : Reply := .response 404 (Text.encode "no rule")

/-- The reply to a call, and the script after it. -/
def Script.take (query : Query) : Script → Reply × Script
  | [] => (noRule, [])
  | rule :: rules =>
    if rule.fits query then (rule.reply, rule.use :: rules)
    else
      let (reply, rules) := Script.take query rules
      (reply, rule :: rules)

/-! ## Delivery -/

/-- Whether requests arrive at the backend. -/
inductive Link where
  | up
  | down
deriving DecidableEq, Repr

/-- What happened to a call: the request that arrived, if one did, and how the call ended. -/
structure Delivery (α : Type) where
  arrived : Option Request
  result : Except Error α

/-- Sends a request over a link to a backend that replies as told, and reads the response. -/
def deliver (link : Link) (query : Query) (request : Request) (reply : Reply) :
    Delivery query.Answer :=
  match link, reply with
  | .up, .response status body => ⟨some request, query.conclude status body⟩
  | .up, _ => ⟨some request, .error (.unsent request.url.toText)⟩
  | .down, _ => ⟨none, .error (.unsent request.url.toText)⟩

/-- Puts a call to a backend that replies as told. -/
def exchange (client : Client) (link : Link) (call : Call) (reply : Reply) :
    Delivery call.Answer :=
  match client.request call with
  | .ok request => deliver link call.query request reply
  | .error error => ⟨none, .error error⟩

/-- A client, the way to the stand-in, what the stand-in will do, and the calls so far. -/
structure Stand where
  client : Client
  link : Link
  script : Script
  /-- The calls put, the latest last, whether or not a request could be made for them. -/
  calls : List Call
deriving Repr

/-- Answers a call by the script. -/
def Stand.answer : Dialogue.Responder Stand := fun call stand =>
  let (reply, script) := Script.take call.query stand.script
  let stand := { stand with script, calls := stand.calls ++ [call] }
  match reply with
  | .panic message => (.panicked message, stand)
  | reply =>
    match (exchange stand.client stand.link call reply).result with
    | .ok answer => (.answered answer, stand)
    | .error error => (.failed error, stand)

end AnnotationReview.Backend
