import HttpInspection.Proofs.Alerts
import HttpInspection.Proofs.Collaborators

/-!
# What the counters say

The counters of an agent are those of its exchanges added up, so that whatever holds of what one
exchange counts, on each of the courses that it can take, holds of any number of them.  The findings
that are missed are those that were produced and have no place in the raw text.
-/

set_option autoImplicit false

namespace HttpInspection

open Http

/-! ## Findings that have no place -/

/-- The number of findings that have no place in a raw text and need one. -/
def unplaced (raw : String) (findings : List Finding) : Nat :=
  findings.countP fun finding => (finding.resolve? raw).isNone

theorem length_resolveAll_le (raw : String) (findings : List Finding) :
    (resolveAll raw findings).value.length ≤ findings.length :=
  List.length_filterMap_le _ _

theorem length_sub_resolveAll (raw : String) (findings : List Finding) :
    findings.length - (resolveAll raw findings).value.length = unplaced raw findings := by
  have kept : (resolveAll raw findings).value.length =
      findings.countP fun finding => (finding.resolve? raw).isSome :=
    List.length_filterMap_eq_countP
  have split := List.length_eq_countP_add_countP (l := findings)
    fun finding => (finding.resolve? raw).isSome
  have dropped : (findings.countP fun finding => ¬ (finding.resolve? raw).isSome = true) =
      unplaced raw findings :=
    List.countP_congr fun finding _ => by simp
  omega

theorem inspect_misses {μ : Type} (raw : String) (message : μ)
    (validators : μ → Traced (List Finding × μ)) (rules : μ → Pass × μ) :
    (inspect raw message validators rules).misses =
      unplaced raw ((validators message).value.1 ++
        (rules (validators message).value.2).1.findings) := by
  simp only [inspect, length_sub_resolveAll]
  rw [unplaced, unplaced, unplaced, List.countP_append]

namespace Agent

/-- The findings of validators in a request, and those of rules in what validators leave of it. -/
def foundInRequest (agent : Agent) (request : Request) : List Finding :=
  let found := (Validator.inspectRequest agent.validators request.dump.2).value
  found.1 ++ (agent.rules.scanRequest found.2.view).flatMap RuleResult.findings

/-- The findings of validators in a response, and those of rules in what validators leave of it. -/
def foundInResponse (agent : Agent) (response : Response) : List Finding :=
  let found := (Validator.inspectResponse agent.validators response.dump.2).value
  found.1 ++ (agent.rules.scanResponse found.2.view).flatMap RuleResult.findings

theorem inspectRequest_misses (agent : Agent) (sink : AlertSink) (request : Request) :
    (agent.inspectRequest sink request).misses =
      unplaced request.dump.1 (agent.foundInRequest request) := by
  simp only [inspectRequest, inspect_misses, Scanner.passRequest_findings, foundInRequest]

theorem inspectResponse_misses (agent : Agent) (sink : AlertSink) (count : Nat)
    (response : Response) :
    (agent.inspectResponse sink count response).misses =
      unplaced response.dump.1 (agent.foundInResponse response) := by
  simp only [inspectResponse, inspect_misses, Scanner.passResponse_findings, foundInResponse]

end Agent

/-! ## What one exchange counts -/

theorem toUInt64_add (n m : Nat) : (n + m).toUInt64 = n.toUInt64 + m.toUInt64 :=
  UInt64.ofNat_add n m

/-- The pass of the rules in an inspection has counted its alerts and nothing else. -/
def Inspected.CountsAlerts {μ : Type} (inspected : Inspected μ) : Prop :=
  inspected.counted = Statistics.withDeliveries inspected.deliveries {}

/-- The number of findings that come with a digest. -/
def withDigest (findings : List Finding) : Nat :=
  findings.countP fun finding => finding.matchedBodyHash.isSome

theorem Inspected.count_eq {μ : Type} (inspected : Inspected μ) (counts : inspected.CountsAlerts)
    (stage : Stage) (s : Statistics) :
    inspected.count stage s =
      { s with
        alertsSent := s.alertsSent + (inspected.deliveries.countP Delivery.accepted).toUInt64
        alertsFailed := s.alertsFailed +
          (inspected.deliveries.countP fun delivery => !delivery.accepted).toUInt64
        positionMisses := s.positionMisses + inspected.misses.toUInt64
        hashFindings := s.hashFindings + (withDigest inspected.ruleFindings).toUInt64
        requestFindings := s.requestFindings +
          if stage = .request then inspected.ruleFindings.length.toUInt64 else 0
        responseFindings := s.responseFindings +
          if stage = .response then inspected.ruleFindings.length.toUInt64 else 0 } := by
  have digests : Statistics.hashCount inspected.ruleFindings =
      withDigest inspected.ruleFindings := rfl
  rw [count, counts, Statistics.add_withDeliveries]
  cases stage <;>
    simp [Statistics.recordMisses, Statistics.recordFindings, Statistics.withDeliveries, digests]

theorem inspect_countsAlerts {μ : Type} (raw : String) (message : μ)
    (validators : μ → Traced (List Finding × μ)) (rules : μ → Pass × μ)
    (counts : ∀ left, (rules left).1.counters =
      some (Statistics.withDeliveries (rules left).1.deliveries {})) :
    (inspect raw message validators rules).CountsAlerts := by
  simp only [Inspected.CountsAlerts, inspect, counts, Option.getD_some]

namespace Agent

theorem inspectRequest_countsAlerts (agent : Agent) (sink : AlertSink) (request : Request) :
    (agent.inspectRequest sink request).CountsAlerts :=
  inspect_countsAlerts _ _ _ _ fun left =>
    (agent.scanner sink).passRequest_counters 0 agent.rules left

theorem inspectResponse_countsAlerts (agent : Agent) (sink : AlertSink) (count : Nat)
    (response : Response) : (agent.inspectResponse sink count response).CountsAlerts :=
  inspect_countsAlerts _ _ _ _ fun left =>
    (agent.scanner sink).passResponse_counters count agent.rules left

theorem GoesOn.countsAlerts {agent : Agent} {around : Surroundings} {first : Inspected Request}
    {course : Course} (goesOn : agent.GoesOn around first course) (second : Inspected Response)
    (given : course.second? = some second) : second.CountsAlerts := by
  cases goesOn with
  | requestBlocked blocked => cases given
  | unanswered passed failed => cases given
  | responseBlocked passed received inspected blocked =>
      cases given
      rw [inspected]
      exact agent.inspectResponse_countsAlerts _ _ _
  | answered passed received inspected passedBack =>
      cases given
      rw [inspected]
      exact agent.inspectResponse_countsAlerts _ _ _

end Agent

namespace Course

def responseFindings (course : Course) : List Finding :=
  (course.second?.map Inspected.ruleFindings).getD []

def deliveries (course : Course) : List Delivery :=
  (course.second?.map Inspected.deliveries).getD []

/-- A course counts that a request was handed on, and what has come of it. -/
theorem count_eq (course : Course)
    (counts : ∀ second, course.second? = some second → second.CountsAlerts) (s : Statistics) :
    course.count s =
      { s with
        forwarded := s.forwarded + if course.sent?.isSome then 1 else 0
        forwardErrors := s.forwardErrors +
          if course.sent?.isSome ∧ course.second? = none then 1 else 0
        responseFindings := s.responseFindings + course.responseFindings.length.toUInt64
        hashFindings := s.hashFindings + (withDigest course.responseFindings).toUInt64
        alertsSent := s.alertsSent + (course.deliveries.countP Delivery.accepted).toUInt64
        alertsFailed := s.alertsFailed +
          (course.deliveries.countP fun delivery => !delivery.accepted).toUInt64
        positionMisses :=
          s.positionMisses + ((course.second?.map Inspected.misses).getD 0).toUInt64 } := by
  cases course with
  | requestBlocked ruleId =>
      simp [count, sent?, second?, responseFindings, deliveries, withDigest]
  | unanswered sent failure =>
      simp [count, sent?, second?, responseFindings, deliveries, withDigest]
  | responseBlocked sent ruleId second =>
      simp [count, second.count_eq (counts second rfl), sent?, second?, responseFindings,
        deliveries]
  | answered sent second =>
      simp [count, second.count_eq (counts second rfl), sent?, second?, responseFindings,
        deliveries]

end Course

namespace Agent

/-- What an exchange counts, written down of its course as a whole. -/
def tally (first : Inspected Request) (course : Course) (elapsedMicros : Nat) : Statistics where
  inspected := 1
  blocked := if course.blocked then 1 else 0
  forwarded := if course.sent?.isSome then 1 else 0
  forwardErrors := if course.sent?.isSome ∧ course.second? = none then 1 else 0
  requestFindings := first.ruleFindings.length.toUInt64
  responseFindings := course.responseFindings.length.toUInt64
  hashFindings := (withDigest (first.ruleFindings ++ course.responseFindings)).toUInt64
  alertsSent := ((first.deliveries ++ course.deliveries).countP Delivery.accepted).toUInt64
  alertsFailed := ((first.deliveries ++ course.deliveries).countP fun delivery =>
    !delivery.accepted).toUInt64
  positionMisses := (first.misses + (course.second?.map Inspected.misses).getD 0).toUInt64
  inspectMicros := elapsedMicros.toUInt64

theorem statisticsOf_eq_tally (first : Inspected Request) (course : Course) (elapsedMicros : Nat)
    (firstCounts : first.CountsAlerts)
    (secondCounts : ∀ second, course.second? = some second → second.CountsAlerts) :
    statisticsOf first course elapsedMicros = tally first course elapsedMicros := by
  rw [statisticsOf, course.count_eq secondCounts, first.count_eq firstCounts]
  simp [tally, withDigest, List.countP_append]

end Agent

/-! ## Calls -/

/-- A call of an agent: the agent as it is then, what surrounds it, and the request. -/
structure Call where
  agent : Agent
  around : Surroundings
  request : Request

namespace Call

def account (call : Call) : Account :=
  call.agent.handle call.around call.request

def reached (call : Call) (state : ExchangeState) : Bool :=
  call.account.outcome.states.contains state

/-- A call was blocked, and not on account of a response. -/
def blockedFirst (call : Call) : Bool :=
  call.account.outcome.blocked && !call.reached .responseMatched

/-- The findings that a call has produced, on the request and on a response, and that have no place
in its raw text. -/
def missed (call : Call) : Nat :=
  unplaced call.request.dump.1 (call.agent.foundInRequest call.request) +
    ((call.account.obtained call.around).map fun response =>
      unplaced response.dump.1 (call.agent.foundInResponse response)).getD 0

/-- The number of hash findings of a call, on its request and on its response. -/
def hashes (call : Call) : Nat :=
  withDigest (call.account.outcome.requestFindings ++ call.account.outcome.responseFindings)

def first (call : Call) : Inspected Request :=
  call.agent.inspectRequest call.around.alerts call.request

def course (call : Call) : Course :=
  call.agent.proceed call.around call.first

theorem goesOn (call : Call) : call.agent.GoesOn call.around call.first call.course :=
  call.agent.proceed_goesOn call.around call.first

theorem account_statistics (call : Call) :
    call.account.statistics = Agent.tally call.first call.course call.around.elapsedMicros :=
  Agent.statisticsOf_eq_tally _ _ _ (call.agent.inspectRequest_countsAlerts _ _)
    call.goesOn.countsAlerts

theorem account_states (call : Call) :
    call.account.outcome.states = [.received, .matched] ++ call.course.states ++ [.logged] := rfl

theorem account_blocked (call : Call) : call.account.outcome.blocked = call.course.blocked := rfl

/-! ### What each counter says of a call -/

theorem inspected_counted (call : Call) : call.account.statistics.inspected = 1 := by
  rw [account_statistics, Agent.tally]

theorem blocked_counted (call : Call) :
    call.account.statistics.blocked = if call.account.outcome.blocked then 1 else 0 := by
  rw [account_statistics, Agent.tally, account_blocked]

theorem reached_forwarded (call : Call) :
    call.reached .forwarded = call.course.sent?.isSome := by
  rw [reached, account_states]
  cases call.course <;> rfl

theorem forwarded_counted (call : Call) :
    call.account.statistics.forwarded = if call.reached .forwarded then 1 else 0 := by
  rw [account_statistics, Agent.tally, reached_forwarded]

theorem reached_responseMatched (call : Call) :
    call.reached .responseMatched = call.course.second?.isSome := by
  rw [reached, account_states]
  cases call.course <;> rfl

theorem forwardErrors_counted (call : Call) :
    call.account.statistics.forwardErrors =
      if call.reached .forwarded && !call.reached .responseMatched then 1 else 0 := by
  rw [account_statistics, Agent.tally, reached_forwarded, reached_responseMatched]
  simp

/-- A call is handed on unless it was blocked before. -/
theorem blockedFirst_eq_not_forwarded (call : Call) :
    call.blockedFirst = !call.reached .forwarded := by
  rw [blockedFirst, account_blocked, reached_responseMatched, reached_forwarded]
  cases call.course <;> rfl

/-- The response that a call has got is the one that is inspected. -/
theorem second_eq (call : Call) :
    call.course.second? = (call.account.obtained call.around).map
      (call.agent.inspectResponse call.around.alerts call.first.deliveries.length) := by
  have obtained : call.account.obtained call.around =
      call.course.sent?.toList.head?.bind fun request =>
        (call.around.forward request).toOption := rfl
  have goesOn := call.goesOn
  rw [obtained]
  generalize call.course = course at goesOn
  cases goesOn with
  | requestBlocked blocked => rfl
  | unanswered passed failed =>
      simp [Course.second?, Course.sent?, failed, Except.toOption]
  | responseBlocked passed received inspected blocked =>
      simp [Course.second?, Course.sent?, received, Except.toOption, inspected]
  | answered passed received inspected passedBack =>
      simp [Course.second?, Course.sent?, received, Except.toOption, inspected]

theorem positionMisses_counted (call : Call) :
    call.account.statistics.positionMisses = call.missed.toUInt64 := by
  have onRequest : call.first.misses =
      unplaced call.request.dump.1 (call.agent.foundInRequest call.request) :=
    call.agent.inspectRequest_misses call.around.alerts call.request
  have onResponse : call.course.second?.map Inspected.misses =
      (call.account.obtained call.around).map fun response =>
        unplaced response.dump.1 (call.agent.foundInResponse response) := by
    rw [second_eq, Option.map_map]
    congr 1
    funext response
    exact call.agent.inspectResponse_misses _ _ response
  rw [account_statistics, Agent.tally, missed, onRequest, onResponse]

theorem requestFindings_counted (call : Call) :
    call.account.statistics.requestFindings =
      call.account.outcome.requestFindings.length.toUInt64 := by
  rw [account_statistics, Agent.tally]
  rfl

theorem responseFindings_counted (call : Call) :
    call.account.statistics.responseFindings =
      call.account.outcome.responseFindings.length.toUInt64 := by
  rw [account_statistics, Agent.tally]
  rfl

theorem hashes_counted (call : Call) :
    call.account.statistics.hashFindings = call.hashes.toUInt64 := by
  rw [account_statistics, Agent.tally]
  rfl

theorem alertsSent_counted (call : Call) :
    call.account.statistics.alertsSent =
      (call.account.deliveries.countP Delivery.accepted).toUInt64 := by
  rw [account_statistics, Agent.tally]
  rfl

theorem alerts_counted (call : Call) :
    call.account.statistics.alertsSent + call.account.statistics.alertsFailed =
      call.account.deliveries.length.toUInt64 := by
  have refused : call.account.statistics.alertsFailed =
      (call.account.deliveries.countP fun delivery => !delivery.accepted).toUInt64 := by
    rw [account_statistics, Agent.tally]
    rfl
  have split := List.length_eq_countP_add_countP (l := call.account.deliveries) Delivery.accepted
  rw [alertsSent_counted, refused, split, toUInt64_add]
  simp

end Call

/-! ## Any number of calls -/

def Statistics.after (s : Statistics) (calls : List Call) : Statistics :=
  calls.foldl (fun s call => s + call.account.statistics) s

/-- What a number of each call comes to. -/
def Call.total (amount : Call → Nat) : List Call → Nat
  | [] => 0
  | call :: rest => amount call + total amount rest

theorem Call.total_toNat (is : Call → Bool) (calls : List Call) :
    Call.total (fun call => (is call).toNat) calls = calls.countP is := by
  induction calls with
  | nil => rfl
  | cons call rest ih =>
      rw [Call.total, ih, List.countP_cons, Nat.add_comm]
      cases is call <;> rfl

section Counter
variable (counter : Statistics → UInt64)
  (adds : ∀ s t : Statistics, counter (s + t) = counter s + counter t)
include adds

theorem Statistics.after_total (amount : Call → Nat)
    (counted : ∀ call : Call, counter call.account.statistics = (amount call).toUInt64)
    (s : Statistics) (calls : List Call) :
    counter (s.after calls) = counter s + (Call.total amount calls).toUInt64 := by
  induction calls generalizing s with
  | nil => exact (UInt64.add_zero _).symm
  | cons call rest ih =>
      have step : s.after (call :: rest) = (s + call.account.statistics).after rest := rfl
      rw [step, ih, adds, counted, Call.total, toUInt64_add, UInt64.add_assoc]

/-- A counter that adds up, and that says of each call what a number of it is, says of calls what
the numbers of them come to. -/
theorem Statistics.total_of_calls (fresh : counter {} = 0) (amount : Call → Nat)
    (counted : ∀ call : Call, counter call.account.statistics = (amount call).toUInt64)
    (calls : List Call) :
    counter (Statistics.after {} calls) = (Call.total amount calls).toUInt64 := by
  rw [after_total counter adds amount counted, fresh, UInt64.zero_add]

theorem Statistics.number_of_calls (fresh : counter {} = 0) (is : Call → Bool)
    (counted : ∀ call : Call, counter call.account.statistics = if is call then 1 else 0)
    (calls : List Call) :
    counter (Statistics.after {} calls) = (calls.countP is).toUInt64 := by
  rw [total_of_calls counter adds fresh fun call => (is call).toNat, Call.total_toNat]
  intro call
  rw [counted]
  cases is call <;> rfl

end Counter

/-- What counters that were fresh say after calls, modulo the size of a counter. -/
structure Statistics.TellOf (s : Statistics) (calls : List Call) : Prop where
  inspected : s.inspected = calls.length.toUInt64
  blocked : s.blocked = (calls.countP fun call => call.account.outcome.blocked).toUInt64
  forwarded : s.forwarded = (calls.countP fun call => call.reached .forwarded).toUInt64
  handedOnOrBlocked :
    s.forwarded + (calls.countP Call.blockedFirst).toUInt64 = s.inspected
  forwardErrors : s.forwardErrors =
    (calls.countP fun call => call.reached .forwarded && !call.reached .responseMatched).toUInt64
  requestFindings : s.requestFindings =
    (Call.total (fun call => call.account.outcome.requestFindings.length) calls).toUInt64
  responseFindings : s.responseFindings =
    (Call.total (fun call => call.account.outcome.responseFindings.length) calls).toUInt64
  hashFindings : s.hashFindings = (Call.total Call.hashes calls).toUInt64
  positionMisses : s.positionMisses = (Call.total Call.missed calls).toUInt64
  alertsSent : s.alertsSent =
    (Call.total (fun call => call.account.deliveries.countP Delivery.accepted) calls).toUInt64
  alerts : s.alertsSent + s.alertsFailed =
    (Call.total (fun call => call.account.deliveries.length) calls).toUInt64

/-- Whatever exchanges there are, and whatever those who take part in them answer, counters that
were fresh tell of them; and nothing is subtracted from less when findings are counted as missed. -/
theorem counters_tell_of_calls (calls : List Call) :
    (Statistics.after {} calls).TellOf calls ∧
      ∀ (raw : String) (findings : List Finding),
        (resolveAll raw findings).value.length ≤ findings.length := by
  refine ⟨?_, length_resolveAll_le⟩
  have inspected : (Statistics.after {} calls).inspected = calls.length.toUInt64 := by
    have all := Statistics.number_of_calls Statistics.inspected (fun _ _ => rfl) rfl
      (fun _ => true) Call.inspected_counted calls
    rwa [List.countP_true] at all
  have forwarded := Statistics.number_of_calls Statistics.forwarded (fun _ _ => rfl) rfl
    (fun call => call.reached .forwarded) Call.forwarded_counted calls
  constructor
  · exact inspected
  · exact Statistics.number_of_calls Statistics.blocked (fun _ _ => rfl) rfl _
      Call.blocked_counted calls
  · exact forwarded
  · have stopped : calls.countP Call.blockedFirst =
        calls.countP fun call => ¬ call.reached .forwarded = true :=
      List.countP_congr fun call _ => by simp [call.blockedFirst_eq_not_forwarded]
    rw [forwarded, inspected, stopped, ← toUInt64_add, ← List.length_eq_countP_add_countP]
  · exact Statistics.number_of_calls Statistics.forwardErrors (fun _ _ => rfl) rfl _
      Call.forwardErrors_counted calls
  · exact Statistics.total_of_calls Statistics.requestFindings (fun _ _ => rfl) rfl _
      Call.requestFindings_counted calls
  · exact Statistics.total_of_calls Statistics.responseFindings (fun _ _ => rfl) rfl _
      Call.responseFindings_counted calls
  · exact Statistics.total_of_calls Statistics.hashFindings (fun _ _ => rfl) rfl _
      Call.hashes_counted calls
  · exact Statistics.total_of_calls Statistics.positionMisses (fun _ _ => rfl) rfl _
      Call.positionMisses_counted calls
  · exact Statistics.total_of_calls Statistics.alertsSent (fun _ _ => rfl) rfl _
      Call.alertsSent_counted calls
  · have sum (s t : Statistics) : (s + t).alertsSent + (s + t).alertsFailed =
        (s.alertsSent + s.alertsFailed) + (t.alertsSent + t.alertsFailed) := by
      change s.alertsSent + t.alertsSent + (s.alertsFailed + t.alertsFailed) = _
      ac_rfl
    exact Statistics.total_of_calls (fun s => s.alertsSent + s.alertsFailed) sum rfl _
      Call.alerts_counted calls

/-- An agent with a rule for a digest, which drops what has it, and one for a text in Base64. -/
def tallyingAgent (mode : OperationMode) : Agent where
  agentId := "tallying"
  settings := { mode }
  rules :=
    let digest : List BodyMatcher := [{ md5sum := some "0cc175b9c0f1b6a831c399e269772661" }]
    { rules := [{ id := "digest"
                  info := { severity := .critical, action := some .drop }
                  request := some { body := digest }
                  response := some { body := digest } },
                { id := "text"
                  info := { severity := .high }
                  request := some
                    { parameters :=
                        [⟨"q", { literal := "abc", encodings := some [.base64] }⟩] } }] }

/-- A server that sends bodies back, and a sink that takes over the first alert of an exchange and
no other. -/
def echoingSurroundings : Surroundings where
  forward := fun request => .ok { body := request.body }
  alerts := fun number _ => if number = 0 then .ok () else .error (.alertRefused "full")

/-- A request whose body has the digest, and whose query has the text in Base64. -/
def tallyingRequest : Request where
  uri := { path := "/", query := some "q=YWJj" }
  body := ⟨[97], 0⟩

/-- The same request in both modes, and one with nothing in it to a server that cannot be reached. -/
def mixedCalls : List Call :=
  [⟨tallyingAgent .testing, echoingSurroundings, tallyingRequest⟩,
    ⟨tallyingAgent .waf, echoingSurroundings, tallyingRequest⟩,
    ⟨tallyingAgent .waf, { forward := fun _ => .error (.environment "no server") }, {}⟩]

theorem counters_tell_of_calls_mixed :
    let s := Statistics.after {} mixedCalls
    s.inspected = 3 ∧ s.blocked = 1 ∧ s.forwarded = 2 ∧ s.forwardErrors = 1 ∧
      s.requestFindings = 2 ∧ s.responseFindings = 1 ∧ s.hashFindings = 3 ∧
      s.positionMisses = 2 ∧ s.alertsSent = 2 ∧ s.alertsSent + s.alertsFailed = 5 := by
  intro s
  obtain ⟨told, -⟩ := counters_tell_of_calls mixedCalls
  rw [told.alerts, told.inspected, told.blocked, told.forwarded, told.forwardErrors,
    told.requestFindings, told.responseFindings, told.hashFindings, told.positionMisses,
    told.alertsSent]
  decide +kernel

end HttpInspection
