import HttpInspection.Exchange

/-!
# The courses that an exchange can take

After the inspection of its request an exchange goes on in one of four ways, and each of them says
what the agent and the server have answered on it.
-/

set_option autoImplicit false

namespace HttpInspection

open Http

namespace Agent

/-- Findings stop an exchange: the mode is the one that blocks, and so is the decision on them. -/
def Stops (agent : Agent) (findings : List Finding) : Prop :=
  agent.settings.mode = .waf ∧ (agent.rules.decide findings).blocked = true

theorem blockedBy_isSome_iff (agent : Agent) (findings : List Finding) :
    (agent.blockedBy findings).isSome = true ↔ agent.Stops findings := by
  unfold blockedBy Stops
  cases agent.settings.mode with
  | testing => simp [OperationMode.blocks]
  | waf => simp [OperationMode.blocks, Decision.blocked]

theorem stops_of_blockedBy (agent : Agent) (findings : List Finding) (ruleId : String)
    (blocked : agent.blockedBy findings = some ruleId) : agent.Stops findings := by
  rw [← blockedBy_isSome_iff, blocked, Option.isSome_some]

theorem not_stops_of_blockedBy (agent : Agent) (findings : List Finding)
    (passed : agent.blockedBy findings = none) : ¬ agent.Stops findings := by
  rw [← blockedBy_isSome_iff, passed]
  exact Bool.false_ne_true

/-- The ways in which an exchange goes on once its request is inspected. -/
inductive GoesOn (agent : Agent) (around : Surroundings) (first : Inspected Request) :
    Course → Prop where
  | requestBlocked {ruleId : String}
      (blocked : agent.blockedBy first.ruleFindings = some ruleId) :
      GoesOn agent around first (.requestBlocked ruleId)
  | unanswered {failure : Failure}
      (passed : agent.blockedBy first.ruleFindings = none)
      (failed : around.forward first.message = .error failure) :
      GoesOn agent around first (.unanswered first.message failure)
  | responseBlocked {response : Response} {second : Inspected Response} {ruleId : String}
      (passed : agent.blockedBy first.ruleFindings = none)
      (received : around.forward first.message = .ok response)
      (inspected : second =
        agent.inspectResponse around.alerts first.deliveries.length response)
      (blocked : agent.blockedBy second.ruleFindings = some ruleId) :
      GoesOn agent around first (.responseBlocked first.message ruleId second)
  | answered {response : Response} {second : Inspected Response}
      (passed : agent.blockedBy first.ruleFindings = none)
      (received : around.forward first.message = .ok response)
      (inspected : second =
        agent.inspectResponse around.alerts first.deliveries.length response)
      (passedBack : agent.blockedBy second.ruleFindings = none) :
      GoesOn agent around first (.answered first.message second)

theorem proceed_goesOn (agent : Agent) (around : Surroundings) (first : Inspected Request) :
    agent.GoesOn around first (agent.proceed around first) := by
  simp only [proceed, Surroundings.handOn]
  cases stopped : agent.blockedBy first.ruleFindings with
  | some ruleId => exact .requestBlocked stopped
  | none =>
      cases sent : around.forward first.message with
      | error failure => exact .unanswered stopped sent
      | ok response =>
          cases withheld : agent.blockedBy (agent.inspectResponse around.alerts
              first.deliveries.length response).ruleFindings with
          | some ruleId =>
              simp only [withheld]
              exact .responseBlocked stopped sent rfl withheld
          | none =>
              simp only [withheld]
              exact .answered stopped sent rfl withheld

theorem handle_goesOn (agent : Agent) (around : Surroundings) (request : Request) :
    ∃ course, agent.GoesOn around (agent.inspectRequest around.alerts request) course ∧
      agent.handle around request =
        agent.conclude around request (agent.inspectRequest around.alerts request) course :=
  ⟨_, agent.proceed_goesOn around _, rfl⟩

/-- What is handed on is the request as its inspection has left it. -/
theorem GoesOn.eq_message_of_sent {agent : Agent} {around : Surroundings}
    {first : Inspected Request} {course : Course} (goesOn : agent.GoesOn around first course)
    (sent : Request) (handedOn : course.sent? = some sent) : sent = first.message := by
  cases goesOn with
  | requestBlocked blocked => cases handedOn
  | unanswered passed failed => exact (Option.some.inj handedOn).symm
  | responseBlocked passed received inspected blocked => exact (Option.some.inj handedOn).symm
  | answered passed received inspected passedBack => exact (Option.some.inj handedOn).symm

/-- An exchange is blocked before anything is handed on exactly if the findings in its request stop
it. -/
theorem blocked_first_iff (agent : Agent) (around : Surroundings) (request : Request) :
    ((agent.handle around request).outcome.blocked = true ∧
        (agent.handle around request).forwarded = []) ↔
      agent.Stops (agent.inspectRequest around.alerts request).ruleFindings := by
  obtain ⟨course, goesOn, handled⟩ := agent.handle_goesOn around request
  simp only [handled, conclude]
  cases goesOn with
  | requestBlocked blocked =>
      simp [Course.blocked, Course.sent?, agent.stops_of_blockedBy _ _ blocked]
  | unanswered passed failed =>
      simp [Course.blocked, agent.not_stops_of_blockedBy _ passed]
  | responseBlocked passed received inspected blocked =>
      simp [Course.sent?, agent.not_stops_of_blockedBy _ passed]
  | answered passed received inspected passedBack =>
      simp [Course.blocked, agent.not_stops_of_blockedBy _ passed]

end Agent

end HttpInspection
