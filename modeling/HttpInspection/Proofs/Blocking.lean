import HttpInspection.Proofs.Courses
import HttpInspection.Proofs.Inspection
import HttpInspection.Proofs.RuleSets

/-!
# Which exchanges are blocked

In the mode that blocks, a request is blocked exactly on account of a rule that does not allow and
whose first match in front of the body, or any match in the body, has a place in the raw exchange,
or that asks for a digest of the body.  Likewise for a response, where every match in the headers
counts.
-/

set_option autoImplicit false

namespace HttpInspection

open Http

namespace Rule

/-- A rule blocks a request: it does not allow, it looks at requests, and a finding of it is kept.
In front of the body only the first match is a finding. -/
def BlocksRequest (rule : Rule) (request : Request) : Prop :=
  rule.info.action ≠ some .allow ∧
    ∃ matchers, rule.request = some matchers ∧
      ((∃ text, (matchers.headMatches request.capture.value.1).head? = some text ∧
          OccursInLine request.dump.1 text) ∨
        (matchBody request.capture.value.1.body matchers.body).value.Kept request.dump.1)

/-- A rule blocks a response: it does not allow, it looks at responses, and a finding of it is
kept. -/
def BlocksResponse (rule : Rule) (response : Response) : Prop :=
  rule.info.action ≠ some .allow ∧
    ∃ matchers, rule.response = some matchers ∧
      ((∃ text ∈ (matchHeaders response.capture.1.headers matchers.headers).value,
          OccursInLine response.dump.1 text) ∨
        (matchBody response.capture.1.body matchers.body).value.Kept response.dump.1)

end Rule

/-! ## Decisions on what is scanned -/

namespace RuleSet

/-- The decision on the kept findings of a scan, in which every rule finds on its own account. -/
theorem decide_scan_blocked_iff (set : RuleSet) (built : set.Built) (raw : String)
    (scan : Rule → Option RuleResult)
    (own : ∀ rule result, scan rule = some result →
      ∀ finding ∈ result.findings, finding.ruleId = rule.id) :
    (set.decide (resolveAll raw
        ((set.rules.filterMap scan).flatMap RuleResult.findings)).value).blocked = true ↔
      ∃ rule ∈ set.rules, rule.info.action ≠ some .allow ∧
        ∃ result, scan rule = some result ∧
          ∃ finding ∈ result.findings, (finding.resolve? raw).isSome = true := by
  rw [decide_blocked_iff]
  constructor
  · rintro ⟨kept, member, blocks⟩
    obtain ⟨finding, found, resolved⟩ := (mem_resolveAll_iff raw _ kept).mp member
    obtain ⟨result, scanned, inResult⟩ := List.mem_flatMap.mp found
    obtain ⟨rule, inSet, same⟩ := List.mem_filterMap.mp scanned
    have id : kept.ruleId = rule.id :=
      (finding.resolve_ruleId raw kept resolved).trans (own rule result same finding inResult)
    refine ⟨rule, inSet, (set.blocks_of_mem built rule inSet kept id).mp blocks, result, same,
      finding, inResult, ?_⟩
    rw [resolved, Option.isSome_some]
  · rintro ⟨rule, inSet, action, result, same, finding, inResult, isKept⟩
    obtain ⟨kept, resolved⟩ := Option.isSome_iff_exists.mp isKept
    have id : kept.ruleId = rule.id :=
      (finding.resolve_ruleId raw kept resolved).trans (own rule result same finding inResult)
    refine ⟨kept, (mem_resolveAll_iff raw _ kept).mpr ⟨finding, ?_, resolved⟩,
      (set.blocks_of_mem built rule inSet kept id).mpr action⟩
    exact List.mem_flatMap.mpr ⟨result, List.mem_filterMap.mpr ⟨rule, inSet, same⟩, inResult⟩

theorem decide_request_blocked_iff (set : RuleSet) (built : set.Built) (request : Request) :
    (set.decide (resolveAll request.rawText
        ((set.scanRequest request.view).flatMap RuleResult.findings)).value).blocked = true ↔
      ∃ rule ∈ set.rules, rule.BlocksRequest request := by
  rw [scanRequest, set.decide_scan_blocked_iff built request.rawText
    (fun rule => rule.scanRequest request.view) (fun rule => rule.ruleId_of_mem_scanRequest _)]
  simp only [Rule.BlocksRequest, request.capture_eq, request.dump_eq]
  have evidence (rule : Rule) := rule.exists_scanRequest_iff request.view fun findings =>
    ∃ finding ∈ findings, (finding.resolve? request.rawText).isSome = true
  simp only [evidence, Rule.exists_kept_finding_iff, Option.mem_toList]

theorem decide_response_blocked_iff (set : RuleSet) (built : set.Built) (response : Response) :
    (set.decide (resolveAll response.rawText
        ((set.scanResponse response.view).flatMap RuleResult.findings)).value).blocked = true ↔
      ∃ rule ∈ set.rules, rule.BlocksResponse response := by
  rw [scanResponse, set.decide_scan_blocked_iff built response.rawText
    (fun rule => rule.scanResponse response.view) (fun rule => rule.ruleId_of_mem_scanResponse _)]
  simp only [Rule.BlocksResponse, response.capture_eq, response.dump_eq]
  have evidence (rule : Rule) := rule.exists_scanResponse_iff response.view fun findings =>
    ∃ finding ∈ findings, (finding.resolve? response.rawText).isSome = true
  simp only [evidence, Rule.exists_kept_finding_iff]

end RuleSet

namespace Agent

section Blocking
variable (agent : Agent) (sink : AlertSink) (mode : agent.settings.mode = .waf)
  (built : agent.rules.Built)
  (leaving : ∀ validator ∈ agent.validators, validator.LeavesMessages)
include mode built leaving

theorem stops_request_iff (request : Request) :
    agent.Stops (agent.inspectRequest sink request).ruleFindings ↔
      ∃ rule ∈ agent.rules.rules, rule.BlocksRequest request := by
  rw [agent.inspectRequest_ruleFindings sink request leaving,
    ← RuleSet.decide_request_blocked_iff _ built]
  exact and_iff_right mode

theorem stops_response_iff (count : Nat) (response : Response) :
    agent.Stops (agent.inspectResponse sink count response).ruleFindings ↔
      ∃ rule ∈ agent.rules.rules, rule.BlocksResponse response := by
  rw [agent.inspectResponse_ruleFindings sink count response leaving,
    ← RuleSet.decide_response_blocked_iff _ built]
  exact and_iff_right mode

end Blocking

end Agent

/-- In the mode that blocks, a request is stopped exactly if a rule blocks it.  Any other request is
handed on once, and its response, if there is one, is withheld exactly if a rule blocks it. -/
theorem blocked_iff_rule_blocks (agent : Agent) (around : Surroundings) (request : Request)
    (mode : agent.settings.mode = .waf) (built : agent.rules.Built)
    (leaving : ∀ validator ∈ agent.validators, validator.LeavesMessages) :
    let account := agent.handle around request
    ((account.outcome.blocked = true ∧ account.forwarded = []) ↔
      ∃ rule ∈ agent.rules.rules, rule.BlocksRequest request) ∧
    ((¬ ∃ rule ∈ agent.rules.rules, rule.BlocksRequest request) →
      account.forwarded = [request.rewound] ∧
        match around.forward request.rewound with
        | .ok response => account.outcome.blocked = true ↔
            ∃ rule ∈ agent.rules.rules, rule.BlocksResponse response
        | .error _ => account.outcome.blocked = false) := by
  have requests := agent.stops_request_iff around.alerts mode built leaving request
  have responses := agent.stops_response_iff around.alerts mode built leaving
  have message := agent.inspectRequest_message around.alerts request leaving
  obtain ⟨course, goesOn, handled⟩ := agent.handle_goesOn around request
  simp only [handled, Agent.conclude]
  rw [← requests]
  cases goesOn with
  | requestBlocked blocked =>
      have stops := agent.stops_of_blockedBy _ _ blocked
      simp [Course.blocked, Course.sent?, stops]
  | unanswered passed failed =>
      rw [message] at failed
      have passes := agent.not_stops_of_blockedBy _ passed
      simp [Course.blocked, Course.sent?, message, passes, failed]
  | @responseBlocked response second ruleId passed received inspected blocked =>
      rw [message] at received
      have passes := agent.not_stops_of_blockedBy _ passed
      rw [inspected] at blocked
      have byRule := (responses _ response).mp (agent.stops_of_blockedBy _ _ blocked)
      simp [Course.blocked, Course.sent?, message, passes, received, byRule]
  | @answered response second passed received inspected passedBack =>
      rw [message] at received
      have passes := agent.not_stops_of_blockedBy _ passed
      rw [inspected] at passedBack
      have byNone := mt (responses _ response).mpr (agent.not_stops_of_blockedBy _ passedBack)
      simp [Course.blocked, Course.sent?, message, passes, received, byNone]

/-- An agent that blocks requests with a text in their targets, beside a validator that finds
nothing. -/
def guardingAgent : Agent where
  agentId := "guarding"
  settings := { mode := .waf }
  rules :=
    { rules := [{ id := "target"
                  info := { severity := .high, action := some .drop }
                  request := some { url := [{ literal := "union SELECT" }] } }] }
  validators := [.constant "silent" (.ok []) (.ok [])]

/-- A request whose decoded target has the text in another case. -/
def selectingRequest : Request where
  uri := { path := "/x", query := some "q=Union+Select" }

theorem blocked_iff_rule_blocks_target :
    guardingAgent.settings.mode = .waf ∧ guardingAgent.rules.Built ∧
      (∀ validator ∈ guardingAgent.validators, validator.LeavesMessages) ∧
      (guardingAgent.handle { forward := fun _ => .ok {} } selectingRequest).outcome.blocked =
        true ∧
      (guardingAgent.handle { forward := fun _ => .ok {} } selectingRequest).forwarded = [] := by
  have accepted : RuleSet.add {} guardingAgent.rules.rules[0] = .ok guardingAgent.rules := rfl
  have built : guardingAgent.rules.Built := .add .empty accepted
  have leaving : ∀ validator ∈ guardingAgent.validators, validator.LeavesMessages := by
    intro validator member
    rw [List.mem_singleton.mp member]
    exact Validator.constant_leavesMessages _ _ _
  have blocks : guardingAgent.rules.rules[0].BlocksRequest selectingRequest := by
    refine ⟨by decide, _, rfl, .inl ⟨"union SELECT", ?_, ?_⟩⟩
    · decide +kernel
    · rw [← locate_isSome_iff]
      decide +kernel
  exact ⟨rfl, built, leaving,
    (blocked_iff_rule_blocks guardingAgent { forward := fun _ => .ok {} } selectingRequest rfl
      built leaving).1.mpr ⟨_, List.mem_singleton.mpr rfl, blocks⟩⟩

end HttpInspection
