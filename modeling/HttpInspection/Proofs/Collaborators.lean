import HttpInspection.Proofs.PairedRuns

/-!
# Collaborators have no influence on the verdict

Validators, the sink of alerts and the log take part in an exchange, but what becomes of it is up to
the rules and the server.  What validators find is kept apart: it is what has a place of the
findings of those that did not fail, in the request and then in the response.
-/

set_option autoImplicit false

namespace HttpInspection

open Http

/-! ## What validators have found -/

/-- The answers of inspections in order, each to the message as those before it have left it. -/
def answersInTurn {μ : Type} :
    List (Inspection μ) → μ → List (Except Failure (List Finding))
  | [], _ => []
  | inspection :: rest, message =>
    (inspection message).value.1 :: answersInTurn rest (inspection message).value.2

/-- What has a place of the findings that answers give; a failure gives none. -/
def keptOf (raw : String) (answers : List (Except Failure (List Finding))) : List Finding :=
  (answers.filterMap Except.toOption).flatMap fun findings => (resolveAll raw findings).value

theorem runInspections_findings {μ : Type} (stage : Stage)
    (inspections : List (String × Inspection μ)) (message : μ) :
    (runInspections stage inspections message).value.1 =
      ((answersInTurn (inspections.map Prod.snd) message).filterMap Except.toOption).flatten := by
  induction inspections generalizing message with
  | nil => rfl
  | cons entry rest ih =>
      obtain ⟨name, inspection⟩ := entry
      simp only [List.map_cons, answersInTurn, runInspections]
      generalize inspection message = given
      obtain ⟨⟨answer, left⟩, notices⟩ := given
      cases answer with
      | ok findings => exact congrArg (findings ++ ·) (ih left)
      | error failure => exact ih left

theorem resolveAll_runInspections {μ : Type} (stage : Stage) (raw : String)
    (inspections : List (String × Inspection μ)) (message : μ) :
    (resolveAll raw (runInspections stage inspections message).value.1).value =
      keptOf raw (answersInTurn (inspections.map Prod.snd) message) := by
  rw [runInspections_findings, resolveAll, List.filterMap_flatten, keptOf, List.flatMap]
  rfl

/-- The response that an exchange has got from the server, if any. -/
def Account.obtained (account : Account) (around : Surroundings) : Option Response :=
  account.forwarded.head?.bind fun request => (around.forward request).toOption

namespace Agent

def keptInRequest (agent : Agent) (request : Request) : List Finding :=
  keptOf request.dump.1 (answersInTurn (agent.validators.map Validator.onRequest) request.dump.2)

def keptInResponse (agent : Agent) (response : Response) : List Finding :=
  keptOf response.dump.1
    (answersInTurn (agent.validators.map Validator.onResponse) response.dump.2)

theorem inspectRequest_validatorFindings (agent : Agent) (sink : AlertSink) (request : Request) :
    (agent.inspectRequest sink request).validatorFindings = agent.keptInRequest request := by
  have kept := resolveAll_runInspections .request request.dump.1
    (agent.validators.map fun validator => (validator.name, validator.onRequest)) request.dump.2
  rw [List.map_map] at kept
  exact kept

theorem inspectResponse_validatorFindings (agent : Agent) (sink : AlertSink) (count : Nat)
    (response : Response) :
    (agent.inspectResponse sink count response).validatorFindings =
      agent.keptInResponse response := by
  have kept := resolveAll_runInspections .response response.dump.1
    (agent.validators.map fun validator => (validator.name, validator.onResponse)) response.dump.2
  rw [List.map_map] at kept
  exact kept

theorem handle_validatorFindings (agent : Agent) (around : Surroundings) (request : Request) :
    (agent.handle around request).outcome.validatorFindings =
      agent.keptInRequest request ++
        (((agent.handle around request).obtained around).map agent.keptInResponse).getD [] := by
  have first := agent.inspectRequest_validatorFindings around.alerts request
  obtain ⟨course, goesOn, handled⟩ := agent.handle_goesOn around request
  simp only [handled, conclude, Surroundings.record, logEntry, Account.obtained, first]
  congr 1
  cases goesOn with
  | requestBlocked blocked => rfl
  | unanswered passed failed =>
      simp [Course.second?, Course.sent?, failed, Except.toOption]
  | responseBlocked passed received inspected blocked =>
      simp [Course.second?, Course.sent?, received, Except.toOption, inspected,
        inspectResponse_validatorFindings]
  | answered passed received inspected passedBack =>
      simp [Course.second?, Course.sent?, received, Except.toOption, inspected,
        inspectResponse_validatorFindings]

end Agent

/-! ## The verdict -/

/-- Two courses agree: they end alike, after inspections of the response that agree. -/
inductive Course.Agrees : Course → Course → Prop where
  | requestBlocked {ruleId : String} : Agrees (.requestBlocked ruleId) (.requestBlocked ruleId)
  | unanswered {sent : Request} {failure : Failure} :
      Agrees (.unanswered sent failure) (.unanswered sent failure)
  | responseBlocked {sent : Request} {ruleId : String} {second other : Inspected Response}
      (agrees : second.Agrees other) :
      Agrees (.responseBlocked sent ruleId second) (.responseBlocked sent ruleId other)
  | answered {sent : Request} {second other : Inspected Response} (agrees : second.Agrees other) :
      Agrees (.answered sent second) (.answered sent other)

namespace Course.Agrees
variable {one other : Course} (agrees : one.Agrees other)
include agrees

theorem states : one.states = other.states := by
  cases agrees <;> rfl

theorem blocked : one.blocked = other.blocked := by
  cases agrees <;> rfl

theorem map_second {β : Type} (common : Inspected Response → β)
    (same : ∀ second third : Inspected Response, second.Agrees third →
      common second = common third) :
    one.second?.map common = other.second?.map common := by
  cases agrees with
  | requestBlocked => rfl
  | unanswered => rfl
  | responseBlocked agrees => exact congrArg some (same _ _ agrees)
  | answered agrees => exact congrArg some (same _ _ agrees)

theorem response (agent : Agent) : one.response agent = other.response agent := by
  cases agrees with
  | requestBlocked => rfl
  | unanswered => rfl
  | responseBlocked agrees => rfl
  | answered agrees => exact agrees.message

end Course.Agrees

/-- Two exchanges have come to the same verdict, on the same findings of rules and with the same
alerts. -/
structure Account.SameVerdict (one other : Account) : Prop where
  states : one.outcome.states = other.outcome.states
  blocked : one.outcome.blocked = other.outcome.blocked
  requestFindings : one.outcome.requestFindings = other.outcome.requestFindings
  responseFindings : one.outcome.responseFindings = other.outcome.responseFindings
  alerts : one.alerts = other.alerts

namespace Agent

def beside (agent : Agent) (validators : List Validator) : Agent :=
  { agent with validators }

theorem proceed_agrees (agent : Agent) (validators : List Validator)
    (around outside : Surroundings) (server : outside.forward = around.forward)
    (leaving : ∀ validator ∈ agent.validators, validator.LeavesMessages)
    (othersLeaving : ∀ validator ∈ validators, validator.LeavesMessages)
    (first other : Inspected Request) (agrees : first.Agrees other) :
    (agent.proceed around first).Agrees ((agent.beside validators).proceed outside other) := by
  have verdict (findings : List Finding) :
      (agent.beside validators).blockedBy findings = agent.blockedBy findings := rfl
  simp only [proceed, Surroundings.handOn, verdict, server, ← agrees.message,
    ← agrees.ruleFindings]
  cases agent.blockedBy first.ruleFindings with
  | some ruleId => exact .requestBlocked
  | none =>
      cases around.forward first.message with
      | error failure => exact .unanswered
      | ok response =>
          have left : (Validator.inspectResponse agent.validators response.rewound).value.2.rewound =
              (Validator.inspectResponse validators response.rewound).value.2.rewound := by
            rw [Validator.inspectResponse_leaves _ _ leaving,
              Validator.inspectResponse_leaves _ _ othersLeaving]
          have second := agent.inspectResponse_agrees (agent.beside validators) around.alerts
            outside.alerts rfl rfl first.deliveries.length other.deliveries.length response left
          simp only [← second.ruleFindings]
          split
          next => exact .responseBlocked second
          next => exact .answered second

end Agent

/-- Exchanges that differ in their validators, in the fate of alerts and in that of the log entry
come to the same verdict, and in the mode that blocks the client gets the same response.  Each has
as the findings of validators what it keeps of those in the request, and then of those in the
response if there was one. -/
theorem collaborators_have_no_influence (agent : Agent) (validators : List Validator)
    (around outside : Surroundings) (request : Request)
    (leaving : ∀ validator ∈ agent.validators, validator.LeavesMessages)
    (othersLeaving : ∀ validator ∈ validators, validator.LeavesMessages)
    (server : outside.forward = around.forward) :
    let account := agent.handle around request
    let other := (agent.beside validators).handle outside request
    account.SameVerdict other ∧
      (agent.settings.mode = .waf → account.outcome.response = other.outcome.response) ∧
      account.outcome.validatorFindings = agent.keptInRequest request ++
        ((account.obtained around).map agent.keptInResponse).getD [] ∧
      other.outcome.validatorFindings = (agent.beside validators).keptInRequest request ++
        ((other.obtained outside).map (agent.beside validators).keptInResponse).getD [] := by
  intro account other
  -- The rules see the message as validators leave it, which is the same in both runs.
  have left : (Validator.inspectRequest agent.validators request.rewound).value.2.rewound =
      (Validator.inspectRequest validators request.rewound).value.2.rewound := by
    rw [Validator.inspectRequest_leaves _ _ leaving,
      Validator.inspectRequest_leaves _ _ othersLeaving]
  have first := agent.inspectRequest_agrees (agent.beside validators) around.alerts outside.alerts
    rfl rfl request left
  have course := agent.proceed_agrees validators around outside server leaving othersLeaving _ _
    first
  have ruleFindings := course.map_second Inspected.ruleFindings fun _ _ second =>
    second.ruleFindings
  have alerts := course.map_second Inspected.alerts fun _ _ second => second.alerts
  refine ⟨?_, ?_, agent.handle_validatorFindings around request,
    (agent.beside validators).handle_validatorFindings outside request⟩
  · constructor
    · exact congrArg ([.received, .matched] ++ · ++ [.logged]) course.states
    · exact course.blocked
    · exact first.ruleFindings
    · exact congrArg (·.getD []) ruleFindings
    · rw [Agent.handle_alerts, Agent.handle_alerts, first.alerts, alerts]
  · intro mode
    have shown (entry : LogEntry) (taken : Course) :
        agent.clientResponse entry taken = taken.response agent := by
      simp only [Agent.clientResponse, mode]
    exact ((shown _ _).trans (course.response agent)).trans (shown _ _).symm

/-- An agent with a rule that allows what it finds and one that drops, beside a validator that
gives a finding under the name of the latter. -/
def accusedAgent : Agent where
  agentId := "accused"
  settings := { mode := .waf }
  rules :=
    { rules := [{ id := "note"
                  info := { severity := .high, action := some .allow }
                  request := some { url := [{ literal := "/" }] } },
                { id := "deny"
                  info := { severity := .high, action := some .drop }
                  request := some { url := [{ literal := "attack" }] } }] }
  validators := [.constant "accusing" (.ok [.ofText "deny" .high "GET"]) (.ok [])]

def failingValidators : List Validator :=
  [.constant "failing" (.error (.environment "down")) (.error (.environment "down"))]

/-- A server that answers, and a sink of alerts and a log that do as told. -/
def answeringSurroundings (taken : Except Failure Unit) : Surroundings where
  forward := fun _ => .ok {}
  alerts := fun _ _ => taken
  log := fun _ => taken

theorem collaborators_have_no_influence_accused :
    let account := accusedAgent.handle (answeringSurroundings (.ok ())) {}
    let other := (accusedAgent.beside failingValidators).handle
      (answeringSurroundings (.error (.environment "down"))) {}
    account.outcome.blocked = false ∧ other.outcome.blocked = false ∧
      account.alerts.map Alert.ruleId = ["note"] ∧ other.alerts.map Alert.ruleId = ["note"] ∧
      account.outcome.validatorFindings.map Finding.ruleId = ["deny"] ∧
      other.outcome.validatorFindings = [] := by
  have leaving : ∀ validator ∈ accusedAgent.validators, validator.LeavesMessages := by
    intro validator member
    rw [List.mem_singleton.mp member]
    exact Validator.constant_leavesMessages _ _ _
  have othersLeaving : ∀ validator ∈ failingValidators, validator.LeavesMessages := by
    intro validator member
    rw [List.mem_singleton.mp member]
    exact Validator.constant_leavesMessages _ _ _
  intro account other
  obtain ⟨verdict, -, kept, othersKept⟩ := collaborators_have_no_influence accusedAgent
    failingValidators (answeringSurroundings (.ok ()))
    (answeringSurroundings (.error (.environment "down"))) {} leaving othersLeaving rfl
  have passed : account.outcome.blocked = false := by decide +kernel
  have alerted : account.alerts.map Alert.ruleId = ["note"] := by decide +kernel
  refine ⟨passed, verdict.blocked.symm.trans passed, alerted,
    (congrArg (List.map Alert.ruleId) verdict.alerts).symm.trans alerted, ?_, ?_⟩
  · rw [kept]
    decide +kernel
  · rw [othersKept]
    decide +kernel

end HttpInspection
