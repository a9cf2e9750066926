import HttpInspection.Agent
import HttpInspection.Http.RawText
import HttpInspection.Position

/-!
# Exchanges

The course of one exchange: the request is inspected and, unless it is blocked, handed on; the
response is inspected and, unless it is blocked, given back; and every course ends with one log
entry.  Only findings of rules block, and only in the mode that blocks.  All rules of one exchange
are those of the agent at its start.
-/

set_option autoImplicit false

namespace HttpInspection

open Http

inductive ExchangeState where
  | received
  | matched
  | blocked
  | forwarded
  | responseMatched
  | logged
  deriving Repr, DecidableEq

def ExchangeState.word : ExchangeState → String
  | received => "RECEIVED"
  | matched => "MATCHED"
  | blocked => "BLOCKED"
  | forwarded => "FORWARDED"
  | responseMatched => "RESPONSE_MATCHED"
  | logged => "LOGGED"

/-- Whoever takes part in an exchange beside the agent: the server that answers requests, the sink
of alerts, and the log. -/
structure Surroundings where
  forward : Request → Except Failure Response
  alerts : AlertSink := AlertSink.taking
  log : LogEntry → Except Failure Unit := fun _ => .ok ()
  unixSeconds : Int := 0
  elapsedMicros : Nat := 0

/-- A request that was handed on, and what the server has answered. -/
structure Handover where
  request : Request
  answer : Except Failure Response

/-- An entry that was logged, and what the log has answered. -/
structure Logging where
  entry : LogEntry
  answer : Except Failure Unit

namespace Surroundings

def handOn (around : Surroundings) (request : Request) : Handover :=
  ⟨request, around.forward request⟩

def record (around : Surroundings) (entry : LogEntry) : Logging :=
  ⟨entry, around.log entry⟩

end Surroundings

/-- An entry that could not be logged is told of, and nothing else comes of it. -/
def Logging.notices (logging : Logging) : List Notice :=
  match logging.answer with
  | .ok _ => []
  | .error failure => [.logFailed failure]

/-! ## Inspecting one message -/

/-- What the inspection of one message has given: its raw text, the message as it was left, the
findings that have places, the number of those that have none, the alerts, and what the pass of the
rules has counted. -/
structure Inspected (μ : Type) where
  raw : String
  message : μ
  validatorFindings : List Finding
  ruleFindings : List Finding
  misses : Nat
  deliveries : List Delivery
  counted : Statistics
  notices : List Notice

def inspect {μ : Type} (raw : String) (message : μ) (validators : μ → Traced (List Finding × μ))
    (rules : μ → Pass × μ) : Inspected μ :=
  let found := validators message
  let validatorFindings := resolveAll raw found.value.1
  let (pass, message) := rules found.value.2
  let ruleFindings := resolveAll raw pass.findings
  { raw, message
    validatorFindings := validatorFindings.value
    ruleFindings := ruleFindings.value
    misses := (found.value.1.length - validatorFindings.value.length) +
      (pass.findings.length - ruleFindings.value.length)
    deliveries := pass.deliveries
    counted := pass.counters.getD {}
    notices := found.notices ++ validatorFindings.notices ++ pass.notices ++ ruleFindings.notices }

/-- Counts what the inspection of a message has given, on top of what the pass has counted. -/
def Inspected.count {μ : Type} (inspected : Inspected μ) (stage : Stage) (s : Statistics) :
    Statistics :=
  ((s + inspected.counted).recordMisses inspected.misses).recordFindings stage
    inspected.ruleFindings

namespace Agent

/-- The scanner of an agent, which counts from zero. -/
def scanner (agent : Agent) (sink : AlertSink) : Scanner :=
  { agentId := agent.agentId, sink, counters := some {} }

def inspectRequest (agent : Agent) (sink : AlertSink) (request : Request) : Inspected Request :=
  let (raw, request) := request.dump
  inspect raw request (Validator.inspectRequest agent.validators)
    ((agent.scanner sink).passRequest 0 agent.rules)

/-- Inspects a response; `count` alerts were raised before in the exchange. -/
def inspectResponse (agent : Agent) (sink : AlertSink) (count : Nat) (response : Response) :
    Inspected Response :=
  let (raw, response) := response.dump
  inspect raw response (Validator.inspectResponse agent.validators)
    ((agent.scanner sink).passResponse count agent.rules)

/-- The rule on whose account findings block, in the mode that blocks. -/
def blockedBy (agent : Agent) (findings : List Finding) : Option String :=
  if agent.settings.mode.blocks then (agent.rules.decide findings).blockedBy else none

def forbidden (agent : Agent) : Response :=
  .ofContent 403 "text/html" agent.forbiddenPage

end Agent

/-! ## The course of an exchange -/

/-- What has happened between the inspection of the request and the log. -/
inductive Course where
  | requestBlocked (ruleId : String)
  /-- The request could not be handed on. -/
  | unanswered (sent : Request) (failure : Failure)
  | responseBlocked (sent : Request) (ruleId : String) (second : Inspected Response)
  | answered (sent : Request) (second : Inspected Response)

namespace Course

def states : Course → List ExchangeState
  | requestBlocked _ => [.blocked]
  | unanswered _ _ => [.forwarded]
  | responseBlocked _ _ _ => [.forwarded, .responseMatched, .blocked]
  | answered _ _ => [.forwarded, .responseMatched]

def blocked : Course → Bool
  | requestBlocked _ | responseBlocked _ _ _ => true
  | unanswered _ _ | answered _ _ => false

/-- The request as it was handed on, if it was. -/
def sent? : Course → Option Request
  | requestBlocked _ => none
  | unanswered sent _ | responseBlocked sent _ _ | answered sent _ => some sent

def second? : Course → Option (Inspected Response)
  | responseBlocked _ _ second | answered _ second => some second
  | _ => none

/-- The response that the client gets in the mode that blocks. -/
def response (agent : Agent) : Course → Response
  | requestBlocked _ | responseBlocked _ _ _ => agent.forbidden
  | unanswered _ _ => .ofStatus 502
  | answered _ second => second.message

def notices : Course → List Notice
  | requestBlocked ruleId => [.blocked .request ruleId]
  | unanswered _ failure => [.forwardFailed failure]
  | responseBlocked _ ruleId second => second.notices ++ [.blocked .response ruleId]
  | answered _ second => second.notices

def count (course : Course) (s : Statistics) : Statistics :=
  let s := if course.sent?.isSome then { s with forwarded := s.forwarded + 1 } else s
  let s := match course.second? with
    | some second => second.count .response s
    | none => s
  match course with
  | unanswered _ _ => { s with forwardErrors := s.forwardErrors + 1 }
  | _ => s

end Course

structure Outcome where
  states : List ExchangeState
  response : Response
  blocked : Bool
  requestFindings : List Finding
  responseFindings : List Finding
  validatorFindings : List Finding
  logEntry : LogEntry

/-- An outcome with what else the exchange has done: the requests that were handed on, the entries
that were logged, the alerts, what was counted and what was told. -/
structure Account where
  outcome : Outcome
  forwarded : List Request
  logged : List LogEntry
  deliveries : List Delivery
  statistics : Statistics
  notices : List Notice

namespace Agent

/-- The course of an exchange whose request was inspected. -/
def proceed (agent : Agent) (around : Surroundings) (first : Inspected Request) : Course :=
  match agent.blockedBy first.ruleFindings with
  | some ruleId => .requestBlocked ruleId
  | none =>
    let handover := around.handOn first.message
    match handover.answer with
    | .error failure => .unanswered handover.request failure
    | .ok response =>
      let second := agent.inspectResponse around.alerts first.deliveries.length response
      match agent.blockedBy second.ruleFindings with
      | some ruleId => .responseBlocked handover.request ruleId second
      | none => .answered handover.request second

def logEntry (agent : Agent) (around : Surroundings) (remote : Option IpAddress)
    (first : Inspected Request) (course : Course) : LogEntry where
  agentId := agent.agentId
  remoteIp := (remote.map IpAddress.text).getD ""
  timestamp := around.unixSeconds
  request := base64Text first.raw
  response := base64Text ((course.second?.map Inspected.raw).getD "")
  blocked := course.blocked
  requestFindings := first.ruleFindings
  responseFindings := (course.second?.map Inspected.ruleFindings).getD []
  validatorFindings :=
    first.validatorFindings ++ (course.second?.map Inspected.validatorFindings).getD []

/-- The response that the client gets; in the mode that does not block it is the log entry. -/
def clientResponse (agent : Agent) (entry : LogEntry) (course : Course) : Response :=
  match agent.settings.mode with
  | .testing => .ofContent 200 "application/json" (bytesOf entry.text)
  | .waf => course.response agent

def statisticsOf (first : Inspected Request) (course : Course) (elapsedMicros : Nat) : Statistics :=
  let s := course.count (first.count .request {})
  { s with
    inspected := s.inspected + 1
    blocked := if course.blocked then s.blocked + 1 else s.blocked
    inspectMicros := s.inspectMicros + elapsedMicros.toUInt64 }

/-- What an exchange gives that has taken a course after the inspection of its request. -/
def conclude (agent : Agent) (around : Surroundings) (request : Request)
    (first : Inspected Request) (course : Course) : Account :=
  let logging := around.record (agent.logEntry around request.remote first course)
  let entry := logging.entry
  { outcome :=
      { states := [.received, .matched] ++ course.states ++ [.logged]
        response := agent.clientResponse entry course
        blocked := course.blocked
        requestFindings := entry.requestFindings
        responseFindings := entry.responseFindings
        validatorFindings := entry.validatorFindings
        logEntry := entry }
    forwarded := course.sent?.toList
    logged := [entry]
    deliveries := first.deliveries ++ (course.second?.map Inspected.deliveries).getD []
    statistics := statisticsOf first course around.elapsedMicros
    notices := first.notices ++ course.notices ++ logging.notices }

def handle (agent : Agent) (around : Surroundings) (request : Request) : Account :=
  let first := agent.inspectRequest around.alerts request
  agent.conclude around request first (agent.proceed around first)

end Agent

end HttpInspection
