import HttpInspection.Proofs.PairedRuns

/-!
# The mode that does not block foretells the mode that blocks

In the mode that does not block, an exchange goes on to its response whatever the rules find.  Up to
where the other mode would stop it, both modes see the same; so the decisions on what was found say
whether the other mode would block, and the findings and alerts are those it would give.
-/

set_option autoImplicit false

namespace HttpInspection

open Http

namespace Agent

def inMode (agent : Agent) (mode : OperationMode) : Agent :=
  { agent with settings := { agent.settings with mode } }

theorem blockedBy_testing (agent : Agent) (findings : List Finding) :
    (agent.inMode .testing).blockedBy findings = none := rfl

theorem blockedBy_waf (agent : Agent) (findings : List Finding) :
    (agent.inMode .waf).blockedBy findings = (agent.rules.decide findings).blockedBy := rfl

/-- A course in the mode that does not block, and the one that it foretells for the mode that
blocks. -/
inductive Foretells (agent : Agent) (first : Inspected Request) : Course → Course → Prop where
  -- What the other run sees of a response is left open here.
  | requestBlocked {dry : Course} {ruleId : String}
      (blocks : (agent.rules.decide first.ruleFindings).blockedBy = some ruleId) :
      Foretells agent first dry (.requestBlocked ruleId)
  | unanswered {failure : Failure}
      (passes : (agent.rules.decide first.ruleFindings).blockedBy = none) :
      Foretells agent first (.unanswered first.message failure)
        (.unanswered first.message failure)
  | responseBlocked {second other : Inspected Response} {ruleId : String}
      (passes : (agent.rules.decide first.ruleFindings).blockedBy = none)
      (agrees : second.Agrees other)
      (validated : second.validatorFindings = other.validatorFindings)
      (blocks : (agent.rules.decide second.ruleFindings).blockedBy = some ruleId) :
      Foretells agent first (.answered first.message second)
        (.responseBlocked first.message ruleId other)
  | answered {second other : Inspected Response}
      (passes : (agent.rules.decide first.ruleFindings).blockedBy = none)
      (agrees : second.Agrees other)
      (validated : second.validatorFindings = other.validatorFindings)
      (passesBack : (agent.rules.decide second.ruleFindings).blockedBy = none) :
      Foretells agent first (.answered first.message second) (.answered first.message other)

theorem proceed_foretells (agent : Agent) (around outside : Surroundings)
    (server : outside.forward = around.forward) (first other : Inspected Request)
    (agrees : first.Agrees other) :
    agent.Foretells first ((agent.inMode .testing).proceed around first)
      ((agent.inMode .waf).proceed outside other) := by
  simp only [proceed, Surroundings.handOn, blockedBy_testing, blockedBy_waf, server,
    ← agrees.message, ← agrees.ruleFindings]
  cases decided : (agent.rules.decide first.ruleFindings).blockedBy with
  | some ruleId => exact .requestBlocked decided
  | none =>
      cases sent : around.forward first.message with
      | error failure => exact .unanswered decided
      | ok response =>
          have second := (agent.inMode .testing).inspectResponse_agrees (agent.inMode .waf)
            around.alerts outside.alerts rfl rfl first.deliveries.length other.deliveries.length
            response rfl
          simp only [← second.ruleFindings]
          split
          next ruleId blocks => exact .responseBlocked decided second rfl blocks
          next passesBack => exact .answered decided second rfl passesBack

namespace Foretells
variable {agent : Agent} {first : Inspected Request} {dry real : Course}
  (foretells : agent.Foretells first dry real)
include foretells

theorem blocked_iff :
    real.blocked = true ↔
      (agent.rules.decide first.ruleFindings).blocked = true ∨
        (agent.rules.decide ((dry.second?.map Inspected.ruleFindings).getD [])).blocked = true := by
  unfold Decision.blocked
  cases foretells with
  | requestBlocked blocks => simp [Course.blocked, blocks]
  | unanswered passes =>
      have nothing : (agent.rules.decide []).blockedBy = none := rfl
      simp [Course.blocked, Course.second?, passes, nothing]
  | responseBlocked passes agrees validated blocks => simp [Course.blocked, Course.second?, blocks]
  | answered passes agrees validated passesBack =>
      simp [Course.blocked, Course.second?, passes, passesBack]

theorem same_response (handedOn : real.sent?.isSome = true) :
    dry.second?.map Inspected.ruleFindings = real.second?.map Inspected.ruleFindings ∧
      dry.second?.map Inspected.validatorFindings = real.second?.map Inspected.validatorFindings ∧
      dry.second?.map Inspected.alerts = real.second?.map Inspected.alerts := by
  cases foretells with
  | requestBlocked blocks => exact absurd handedOn Bool.false_ne_true
  | unanswered passes => exact ⟨rfl, rfl, rfl⟩
  | responseBlocked passes agrees validated blocks =>
      exact ⟨congrArg some agrees.ruleFindings, congrArg some validated,
        congrArg some agrees.alerts⟩
  | answered passes agrees validated passesBack =>
      exact ⟨congrArg some agrees.ruleFindings, congrArg some validated,
        congrArg some agrees.alerts⟩

end Foretells

end Agent

/-- In the mode that does not block, the findings of the rules in a request are those of the mode
that blocks.  Unless the latter stops the request, so are the findings in the response, those of
validators and the alerts; and it blocks exactly if the decision on the findings of the former
does, on those in the request or on those in the response. -/
theorem testing_foretells_waf (agent : Agent) (around outside : Surroundings) (request : Request)
    (server : outside.forward = around.forward) :
    let dry := (agent.inMode .testing).handle around request
    let real := (agent.inMode .waf).handle outside request
    dry.outcome.requestFindings = real.outcome.requestFindings ∧
      (¬ (real.outcome.blocked = true ∧ real.forwarded = []) →
        dry.outcome.responseFindings = real.outcome.responseFindings ∧
          dry.outcome.validatorFindings = real.outcome.validatorFindings ∧
          dry.alerts = real.alerts) ∧
      (real.outcome.blocked = true ↔
        (agent.rules.decide dry.outcome.requestFindings).blocked = true ∨
          (agent.rules.decide dry.outcome.responseFindings).blocked = true) := by
  intro dry real
  have first := (agent.inMode .testing).inspectRequest_agrees (agent.inMode .waf) around.alerts
    outside.alerts rfl rfl request rfl
  have foretells := agent.proceed_foretells around outside server _ _ first
  refine ⟨first.ruleFindings, fun passes => ?_, foretells.blocked_iff⟩
  have handedOn := (agent.inMode .waf).proceed_sent_of_not_stopped outside request passes
  obtain ⟨ruleFindings, validatorFindings, alerts⟩ := foretells.same_response handedOn
  refine ⟨congrArg (·.getD []) ruleFindings, ?_, ?_⟩
  · exact congrArg (_ ++ ·.getD []) validatorFindings
  · rw [Agent.handle_alerts, Agent.handle_alerts, first.alerts, alerts]

def leakWatchingAgent : Agent where
  agentId := "leaks"
  rules :=
    { rules := [{ id := "leak"
                  info := { severity := .high, action := some .drop }
                  response := some { body := [{ mode := { literal := "root:" } }] } }] }

def leakingSurroundings (taken : Except Failure Unit) : Surroundings where
  forward := fun _ => .ok { body := ⟨bytesOf "root:x:0:0", 0⟩ }
  alerts := fun _ _ => taken

theorem testing_foretells_waf_withheld :
    let dry := (leakWatchingAgent.inMode .testing).handle (leakingSurroundings (.ok ())) {}
    let real := (leakWatchingAgent.inMode .waf).handle
      (leakingSurroundings (.error (.alertRefused "full"))) {}
    dry.outcome.blocked = false ∧ real.outcome.blocked = true ∧
      dry.outcome.responseFindings = real.outcome.responseFindings ∧ dry.alerts = real.alerts := by
  intro dry real
  have server : (leakingSurroundings (.error (.alertRefused "full"))).forward =
      (leakingSurroundings (.ok ())).forward := rfl
  obtain ⟨-, seen, blocked⟩ := testing_foretells_waf leakWatchingAgent _ _ {} server
  have handedOn : real.forwarded ≠ [] := by decide +kernel
  obtain ⟨responseFindings, -, alerts⟩ := seen fun stopped => handedOn stopped.2
  exact ⟨rfl, blocked.mpr (.inr (by decide +kernel)), responseFindings, alerts⟩

end HttpInspection
