import HttpInspection.Proofs.Courses

/-!
# Exchanges in flight

An exchange step by step, as it goes on among others: what has been worked out of it so far is what
its handling in one piece works out, whatever the log answers when it comes to that.  A step reads
the agent as it is at that moment.
-/

set_option autoImplicit false

namespace HttpInspection

open Http

/-! ## What an exchange has come to -/

/-- What has been worked out of an exchange. -/
inductive Progress where
  | received
  /-- The validators have inspected the request. -/
  | validated (found : Traced (List Finding × Request))
  | matched (first : Inspected Request)
  /-- The server has the request. -/
  | handedOn (first : Inspected Request)
  | answered (first : Inspected Request) (sent : Request) (response : Response)
  /-- The validators have inspected the response. -/
  | responseValidated (first : Inspected Request) (sent : Request) (response : Response)
      (found : Traced (List Finding × Response))
  | responseMatched (first : Inspected Request) (sent : Request) (second : Inspected Response)
  /-- There is nothing left to do but to log. -/
  | settled (first : Inspected Request) (course : Course)
  | logged (account : Account)

namespace Progress

/-- One more step of an exchange, by the agent as it is then. -/
def next (agent : Agent) (around : Surroundings) (request : Request) : Progress → Progress
  | received => validated (Validator.inspectRequest agent.validators request.dump.2)
  | validated found =>
    matched (inspect request.dump.1 request.dump.2 (fun _ => found)
      ((agent.scanner around.alerts).passRequest 0 agent.rules))
  | matched first =>
    match agent.blockedBy first.ruleFindings with
    | some ruleId => settled first (.requestBlocked ruleId)
    | none => handedOn first
  | handedOn first =>
    match around.handOn first.message with
    | ⟨sent, .error failure⟩ => settled first (.unanswered sent failure)
    | ⟨sent, .ok response⟩ => answered first sent response
  | answered first sent response =>
    responseValidated first sent response
      (Validator.inspectResponse agent.validators response.dump.2)
  | responseValidated first sent response found =>
    responseMatched first sent (inspect response.dump.1 response.dump.2 (fun _ => found)
      ((agent.scanner around.alerts).passResponse first.deliveries.length agent.rules))
  | responseMatched first sent second =>
    match agent.blockedBy second.ruleFindings with
    | some ruleId => settled first (.responseBlocked sent ruleId second)
    | none => settled first (.answered sent second)
  | settled first course => logged (agent.conclude around request first course)
  | logged account => logged account

def remaining : Progress → Nat
  | received => 8
  | validated _ => 7
  | matched _ => 6
  | handedOn _ => 5
  | answered _ _ _ => 4
  | responseValidated _ _ _ _ => 3
  | responseMatched _ _ _ => 2
  | settled _ _ => 1
  | logged _ => 0

def account? : Progress → Option Account
  | logged account => some account
  | _ => none

theorem remaining_next (agent : Agent) (around : Surroundings) (request : Request)
    (progress : Progress) :
    (progress.next agent around request).remaining ≤ progress.remaining - 1 := by
  cases progress with
  | received => exact Nat.le_refl _
  | validated found => exact Nat.le_refl _
  | matched first =>
      rw [next]
      split
      next => exact Nat.le_add_left 1 4
      next => exact Nat.le_refl _
  | handedOn first =>
      rw [next]
      split
      next => exact Nat.le_add_left 1 3
      next => exact Nat.le_refl _
  | answered first sent response => exact Nat.le_refl _
  | responseValidated first sent response found => exact Nat.le_refl _
  | responseMatched first sent second =>
      rw [next]
      split <;> exact Nat.le_refl _
  | settled first course => exact Nat.le_refl _
  | logged account => exact Nat.le_refl _

theorem isSome_account_of_remaining (progress : Progress) (ended : progress.remaining = 0) :
    progress.account?.isSome = true := by
  cases progress with
  | logged account => rfl
  | _ => cases ended

/-! ## What has been worked out is right -/

section Sound
variable (agent : Agent) (around : Surroundings) (request : Request)

/-- The request was inspected and may be handed on. -/
structure HandsOn (first : Inspected Request) : Prop where
  inspected : first = agent.inspectRequest around.alerts request
  passed : agent.blockedBy first.ruleFindings = none

/-- What has been worked out of an exchange is what its handling in one piece works out. -/
def Sound : Progress → Prop
  | received => True
  | validated found => found = Validator.inspectRequest agent.validators request.dump.2
  | matched first => first = agent.inspectRequest around.alerts request
  | handedOn first => HandsOn agent around request first
  | answered first sent response =>
    HandsOn agent around request first ∧ around.handOn first.message = ⟨sent, .ok response⟩
  | responseValidated first sent response found =>
    HandsOn agent around request first ∧ around.handOn first.message = ⟨sent, .ok response⟩ ∧
      found = Validator.inspectResponse agent.validators response.dump.2
  | responseMatched first sent second =>
    HandsOn agent around request first ∧ ∃ response,
      around.handOn first.message = ⟨sent, .ok response⟩ ∧
        second = agent.inspectResponse around.alerts first.deliveries.length response
  | settled first course =>
    first = agent.inspectRequest around.alerts request ∧ course = agent.proceed around first
  | logged account => ∃ log, account = agent.handle { around with log } request

/-- The step lemma: one case for each point that an exchange can have come to. -/
theorem Sound.next (log : LogEntry → Except Failure Unit) (progress : Progress)
    (sound : progress.Sound agent around request) :
    (progress.next agent { around with log } request).Sound agent around request := by
  cases progress with
  | received => exact rfl
  | validated found =>
      cases sound
      exact rfl
  | matched first =>
      have inspected : first = agent.inspectRequest around.alerts request := sound
      rw [Progress.next]
      split
      next ruleId blocked =>
        refine ⟨inspected, ?_⟩
        rw [Agent.proceed, blocked]
      next passed => exact ⟨inspected, passed⟩
  | handedOn first =>
      obtain ⟨inspected, passed⟩ := sound
      rw [Progress.next]
      split
      next sent failure failed =>
        refine ⟨inspected, ?_⟩
        have unanswered : around.handOn first.message = ⟨sent, .error failure⟩ := failed
        simp only [Agent.proceed, passed, unanswered]
      next sent response received => exact ⟨⟨inspected, passed⟩, received⟩
  | answered first sent response => exact ⟨sound.1, sound.2, rfl⟩
  | responseValidated first sent response found =>
      obtain ⟨handedOn, received, rfl⟩ := sound
      exact ⟨handedOn, response, received, rfl⟩
  | responseMatched first sent second =>
      obtain ⟨⟨inspected, passed⟩, response, received, secondEq⟩ := sound
      rw [Progress.next]
      split
      next ruleId blocked =>
        refine ⟨inspected, ?_⟩
        rw [secondEq] at blocked ⊢
        simp only [Agent.proceed, passed, received, blocked]
      next passedBack =>
        refine ⟨inspected, ?_⟩
        rw [secondEq] at passedBack ⊢
        simp only [Agent.proceed, passed, received, passedBack]
  | settled first course =>
      obtain ⟨rfl, rfl⟩ := sound
      exact ⟨log, rfl⟩
  | logged account => exact sound

end Sound

end Progress

end HttpInspection
