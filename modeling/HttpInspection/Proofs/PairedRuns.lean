import HttpInspection.Proofs.Alerts
import HttpInspection.Proofs.Courses
import HttpInspection.Proofs.Inspection

/-!
# Two runs of one exchange

Two inspections of a message agree when they differ in nothing but what validators have found and
what became of the alerts.  Inspections agree when the rules are the same and the validators leave
the same message; and agents that decide alike on findings take the same course after inspections
that agree.
-/

set_option autoImplicit false

namespace HttpInspection

open Http

/-- The alerts of an inspection, whatever became of them. -/
def Inspected.alerts {μ : Type} (inspected : Inspected μ) : List Alert :=
  inspected.deliveries.map Delivery.alert

def Account.alerts (account : Account) : List Alert :=
  account.deliveries.map Delivery.alert

theorem Agent.handle_alerts (agent : Agent) (around : Surroundings) (request : Request) :
    (agent.handle around request).alerts =
      (agent.inspectRequest around.alerts request).alerts ++
        (((agent.proceed around (agent.inspectRequest around.alerts request)).second?.map
          Inspected.alerts).getD []) := by
  simp only [handle, conclude, Account.alerts, Inspected.alerts, List.map_append]
  cases (agent.proceed around (agent.inspectRequest around.alerts request)).second? <;> rfl

theorem Agent.proceed_sent_of_not_stopped (agent : Agent) (around : Surroundings)
    (request : Request)
    (passes : ¬ ((agent.handle around request).outcome.blocked = true ∧
      (agent.handle around request).forwarded = [])) :
    (agent.proceed around (agent.inspectRequest around.alerts request)).sent?.isSome = true := by
  by_contra kept
  refine passes ?_
  simp only [handle, conclude]
  generalize agent.proceed around (agent.inspectRequest around.alerts request) = course at kept
  cases course with
  | requestBlocked ruleId => exact ⟨rfl, rfl⟩
  | unanswered sent failure => exact absurd rfl kept
  | responseBlocked sent ruleId second => exact absurd rfl kept
  | answered sent second => exact absurd rfl kept

/-- Two inspections agree on the message and on what the rules have found in it. -/
structure Inspected.Agrees {μ : Type} (one other : Inspected μ) : Prop where
  raw : one.raw = other.raw
  message : one.message = other.message
  ruleFindings : one.ruleFindings = other.ruleFindings
  alerts : one.alerts = other.alerts

namespace Agent

section Inspections
variable (one other : Agent) (sink otherSink : AlertSink)
  (sameId : one.agentId = other.agentId) (sameRules : one.rules = other.rules)
include sameId sameRules

theorem inspectRequest_agrees (request : Request)
    (left : (Validator.inspectRequest one.validators request.rewound).value.2.rewound =
      (Validator.inspectRequest other.validators request.rewound).value.2.rewound) :
    (one.inspectRequest sink request).Agrees (other.inspectRequest otherSink request) := by
  have viewed := congrArg Request.view left
  rw [Request.view_rewound, Request.view_rewound] at viewed
  constructor
  · rfl
  · simp only [inspectRequest, inspect, request.dump_eq, Scanner.passRequest_message, left]
  · simp only [inspectRequest, inspect, request.dump_eq, Scanner.passRequest_findings, viewed,
      sameRules]
  · simp only [Inspected.alerts, inspectRequest, inspect, request.dump_eq,
      Scanner.passRequest_deliverAll, Scanner.deliverAll_alerts, scanner, viewed, sameId, sameRules]

theorem inspectResponse_agrees (count otherCount : Nat) (response : Response)
    (left : (Validator.inspectResponse one.validators response.rewound).value.2.rewound =
      (Validator.inspectResponse other.validators response.rewound).value.2.rewound) :
    (one.inspectResponse sink count response).Agrees
      (other.inspectResponse otherSink otherCount response) := by
  have viewed := congrArg Response.view left
  rw [Response.view_rewound, Response.view_rewound] at viewed
  constructor
  · rfl
  · simp only [inspectResponse, inspect, response.dump_eq, Scanner.passResponse_message, left]
  · simp only [inspectResponse, inspect, response.dump_eq, Scanner.passResponse_findings, viewed,
      sameRules]
  · simp only [Inspected.alerts, inspectResponse, inspect, response.dump_eq,
      Scanner.passResponse_deliverAll, Scanner.deliverAll_alerts, scanner, viewed, sameId,
      sameRules]

end Inspections

end Agent

end HttpInspection
