import HttpInspection.Exchange
import HttpInspection.Proofs.Scanning

/-!
# Inspecting messages beside validators that leave them

A validator may read the body of a message, but what the message is stays.  Beside such validators
the inspection of a message hands on the message with its body at its start, and its findings of
rules are those of a pass over the message as it was received.
-/

set_option autoImplicit false

namespace HttpInspection

open Http

/-- A validator leaves messages as it found them, but for how far their bodies have been read. -/
structure Validator.LeavesMessages (validator : Validator) : Prop where
  request : ∀ request, (validator.onRequest request).value.2.rewound = request.rewound
  response : ∀ response, (validator.onResponse response).value.2.rewound = response.rewound

/-! ## The validators that there are -/

theorem Validator.constant_leavesMessages (name : String)
    (onRequest onResponse : Except Failure (List Finding)) :
    (constant name onRequest onResponse).LeavesMessages :=
  ⟨fun _ => rfl, fun _ => rfl⟩

theorem UserAgentBlacklist.validator_leavesMessages (blacklist : UserAgentBlacklist) :
    blacklist.validator.LeavesMessages :=
  ⟨fun _ => rfl, fun _ => rfl⟩

/-! ## Validators in a row -/

theorem runInspections_cons_message {μ : Type} (stage : Stage) (name : String)
    (inspection : Inspection μ) (rest : List (String × Inspection μ)) (message : μ) :
    (runInspections stage ((name, inspection) :: rest) message).value.2 =
      (runInspections stage rest (inspection message).value.2).value.2 := by
  rw [runInspections]
  generalize inspection message = given
  obtain ⟨⟨answer, left⟩, notices⟩ := given
  cases answer with
  | ok findings => rfl
  | error failure => rfl

/-- What each of some inspections leaves of a message, all of them leave. -/
theorem runInspections_leaves {μ ν : Type} (stage : Stage) (kept : μ → ν)
    (inspections : List (String × Inspection μ)) (message : μ)
    (leaving : ∀ entry ∈ inspections, ∀ message, kept (entry.2 message).value.2 = kept message) :
    kept (runInspections stage inspections message).value.2 = kept message := by
  induction inspections generalizing message with
  | nil => rfl
  | cons entry rest ih =>
      obtain ⟨name, inspection⟩ := entry
      rw [runInspections_cons_message,
        ih _ fun entry member => leaving entry (List.mem_cons_of_mem _ member)]
      exact leaving (name, inspection) List.mem_cons_self message

theorem Validator.inspectRequest_leaves (validators : List Validator) (request : Request)
    (leaving : ∀ validator ∈ validators, validator.LeavesMessages) :
    (inspectRequest validators request).value.2.rewound = request.rewound := by
  refine runInspections_leaves .request Request.rewound _ request ?_
  intro entry member
  obtain ⟨validator, inList, rfl⟩ := List.mem_map.mp member
  exact (leaving validator inList).request

theorem Validator.inspectResponse_leaves (validators : List Validator) (response : Response)
    (leaving : ∀ validator ∈ validators, validator.LeavesMessages) :
    (inspectResponse validators response).value.2.rewound = response.rewound := by
  refine runInspections_leaves .response Response.rewound _ response ?_
  intro entry member
  obtain ⟨validator, inList, rfl⟩ := List.mem_map.mp member
  exact (leaving validator inList).response

namespace Agent

/-! ## Inspecting a request -/

theorem inspectRequest_raw (agent : Agent) (sink : AlertSink) (request : Request) :
    (agent.inspectRequest sink request).raw = request.dump.1 := rfl

section Request
variable (agent : Agent) (sink : AlertSink) (request : Request)
  (leaving : ∀ validator ∈ agent.validators, validator.LeavesMessages)
include leaving

theorem inspectRequest_message : (agent.inspectRequest sink request).message = request.rewound := by
  simp only [inspectRequest, inspect, request.dump_eq, Scanner.passRequest_message]
  rw [Validator.inspectRequest_leaves _ _ leaving, Request.rewound_rewound]

theorem inspectRequest_ruleFindings :
    (agent.inspectRequest sink request).ruleFindings =
      (resolveAll request.rawText
        ((agent.rules.scanRequest request.view).flatMap RuleResult.findings)).value := by
  simp only [inspectRequest, inspect, request.dump_eq, Scanner.passRequest_findings]
  rw [← Request.view_rewound, Validator.inspectRequest_leaves _ _ leaving,
    Request.view_rewound, Request.view_rewound]

end Request

/-! ## Inspecting a response -/

section Response
variable (agent : Agent) (sink : AlertSink) (count : Nat) (response : Response)
  (leaving : ∀ validator ∈ agent.validators, validator.LeavesMessages)
include leaving

theorem inspectResponse_message :
    (agent.inspectResponse sink count response).message = response.rewound := by
  simp only [inspectResponse, inspect, response.dump_eq, Scanner.passResponse_message]
  rw [Validator.inspectResponse_leaves _ _ leaving, Response.rewound_rewound]

theorem inspectResponse_ruleFindings :
    (agent.inspectResponse sink count response).ruleFindings =
      (resolveAll response.rawText
        ((agent.rules.scanResponse response.view).flatMap RuleResult.findings)).value := by
  simp only [inspectResponse, inspect, response.dump_eq, Scanner.passResponse_findings]
  rw [← Response.view_rewound, Validator.inspectResponse_leaves _ _ leaving,
    Response.view_rewound, Response.view_rewound]

end Response

end Agent

end HttpInspection
