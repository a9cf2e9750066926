import HttpInspection.Proofs.Flights

/-!
# Loading rules while exchanges are in flight

Exchanges of an agent go on side by side, a step of one and then a step of another, and between any
two steps the rules may be loaded anew.  An exchange has the rules that were in force when it began:
no event changes the agent that its steps read, so that it comes to what its handling alone, by an
agent with these rules, comes to.  Only a beginning reads the rules in force, so that loading rules
in the middle of a step, as a validator or a sink of alerts may do, is as good as doing so after it.
-/

set_option autoImplicit false

namespace HttpInspection

open Http

/-! ## An agent at work -/

/-- A request that arrives, with the validators as they answer in its exchange, and with whoever else
takes part in it. -/
structure Arrival where
  request : Request
  validators : List Validator
  around : Surroundings

/-- An exchange in flight and the rules that were in force when it began. -/
structure Flight where
  arrival : Arrival
  rules : RuleSet
  progress : Progress := .received

/-- The agent as the steps of a flight read it. -/
def Flight.agentIn (flight : Flight) (agent : Agent) : Agent :=
  { agent with rules := flight.rules, validators := flight.arrival.validators }

/-- A log that takes entries; `σ` is what it contains. -/
abbrev LogSink (σ : Type) := σ → LogEntry → Except Failure Unit × σ

/-- An agent at work, with what all its exchanges share and with each of them in order of arrival. -/
structure Service (σ : Type) where
  agent : Agent
  log : σ
  statistics : Statistics := {}
  flights : List Flight := []

inductive ServiceEvent where
  | arrive (arrival : Arrival)
  | advance (place : Nat)
  | reload (files : FileTree)

namespace ServiceEvent

def advances (place : Nat) : ServiceEvent → Bool
  | advance other => other == place
  | _ => false

def loaded? (source : RuleSource) : ServiceEvent → Option RuleSet
  | reload files => (source.load files).value.toOption
  | _ => none

end ServiceEvent

namespace Service

section Run
variable {σ : Type} (sink : LogSink σ)

def advanced (service : Service σ) (flight : Flight) : Flight :=
  let around := { flight.arrival.around with log := fun entry => (sink service.log entry).1 }
  { flight with
    progress := flight.progress.next (flight.agentIn service.agent) around flight.arrival.request }

/-- What a flight has given in its last step, if that was the step that logs. -/
def newAccount? (before after : Progress) : Option Account :=
  if before.account?.isSome then none else after.account?

def step (service : Service σ) : ServiceEvent → Service σ
  | .arrive arrival =>
    { service with flights := service.flights ++ [{ arrival, rules := service.agent.rules }] }
  | .advance place =>
    match service.flights[place]? with
    | none => service
    | some flight =>
      let after := service.advanced sink flight
      let account? := newAccount? flight.progress after.progress
      { service with
        flights := service.flights.set place after
        log := account?.elim service.log fun account =>
          (sink service.log account.outcome.logEntry).2
        statistics := account?.elim service.statistics fun account =>
          service.statistics + account.statistics }
  | .reload files => { service with agent := (service.agent.reload files).value.2 }

def run (service : Service σ) (events : List ServiceEvent) : Service σ :=
  events.foldl (step sink) service

def account? (service : Service σ) (place : Nat) : Option Account :=
  service.flights[place]?.bind fun flight => flight.progress.account?

end Run

end Service

/-! ## Loading rules -/

theorem RuleSource.load_of_missing (source : RuleSource) (files : FileTree)
    (missing : files.isDirectory source.directory = false) :
    (source.load files).value = .error (.noRulesDirectory source.directory) := by
  unfold load
  split
  next entries found => simp [FileTree.isDirectory, found, FileNode.isDirectory] at missing
  next => rfl

theorem RuleSource.exists_load (source : RuleSource) (files : FileTree)
    (present : files.isDirectory source.directory = true) :
    ∃ rules, (source.load files).value = .ok rules := by
  unfold load
  split
  next entries found => exact ⟨_, rfl⟩
  next other =>
    unfold FileTree.isDirectory at present
    split at present
    next node found =>
      cases node with
      | file bytes => cases present
      | directory entries => exact absurd found (other entries)
    next => cases present

namespace Agent

theorem reload_of_load (agent : Agent) (files : FileTree) (rules : RuleSet)
    (loaded : (agent.settings.ruleSource.load files).value = .ok rules) :
    (agent.reload files).value = (.ok rules.size, { agent with rules }) := by
  unfold reload
  generalize agent.settings.ruleSource.load files = given at loaded
  obtain ⟨value, notices⟩ := given
  cases loaded
  rfl

theorem reload_of_failure (agent : Agent) (files : FileTree) (failure : Failure)
    (failed : (agent.settings.ruleSource.load files).value = .error failure) :
    (agent.reload files).value = (.error failure, agent) := by
  unfold reload
  generalize agent.settings.ruleSource.load files = given at failed
  obtain ⟨value, notices⟩ := given
  cases failed
  rfl

theorem reload_agent (agent : Agent) (files : FileTree) :
    (agent.reload files).value.2 =
      { agent with
        rules := ((ServiceEvent.reload files).loaded? agent.settings.ruleSource).getD
          agent.rules } := by
  rw [ServiceEvent.loaded?]
  cases loaded : (agent.settings.ruleSource.load files).value with
  | ok rules =>
      rw [agent.reload_of_load files rules loaded]
      rfl
  | error failure =>
      rw [agent.reload_of_failure files failure loaded]
      rfl

end Agent

namespace Service

section Agent
variable {σ : Type} (sink : LogSink σ)

theorem step_agent (service : Service σ) (event : ServiceEvent) :
    (service.step sink event).agent =
      { service.agent with
        rules := (event.loaded? service.agent.settings.ruleSource).getD service.agent.rules } := by
  cases event with
  | arrive arrival => rfl
  | advance place =>
      rw [step]
      split <;> rfl
  | reload files => exact service.agent.reload_agent files

theorem run_agent (service : Service σ) (events : List ServiceEvent) :
    (service.run sink events).agent =
      { service.agent with rules := (service.run sink events).agent.rules } := by
  induction events generalizing service with
  | nil => rfl
  | cons event rest ih =>
      have tail := ih (service.step sink event)
      rw [step_agent] at tail
      exact tail

theorem run_rules_of_unloaded (service : Service σ) (events : List ServiceEvent)
    (unloaded : ∀ event ∈ events, event.loaded? service.agent.settings.ruleSource = none) :
    (service.run sink events).agent.rules = service.agent.rules := by
  induction events generalizing service with
  | nil => rfl
  | cons event rest ih =>
      have first : (service.step sink event).agent = service.agent := by
        rw [step_agent, unloaded event List.mem_cons_self]
        rfl
      have tail := ih (service.step sink event)
      rw [first] at tail
      exact tail fun event member => unloaded event (List.mem_cons_of_mem _ member)

end Agent

/-! ## One flight among others -/

/-- A flight of an arrival goes on as it does alone: its steps read the same agent, what it has come
to is right, and there are no more steps left than there should be. -/
structure FliesAlone (alone : Agent) (arrival : Arrival) (left : Nat) (agent : Agent)
    (flight : Flight) : Prop where
  ofArrival : flight.arrival = arrival
  reads : flight.agentIn agent = alone
  sound : flight.progress.Sound alone arrival.around arrival.request
  left : flight.progress.remaining ≤ left

section Flight
variable {σ : Type} (sink : LogSink σ) (alone : Agent) (arrival : Arrival) (place : Nat)

/-- At a place there is a flight that goes on as it does alone. -/
def Carries (left : Nat) (service : Service σ) : Prop :=
  ∃ flight, service.flights[place]? = some flight ∧
    FliesAlone alone arrival left service.agent flight

theorem carries_arrive (service : Service σ) :
    (service.step sink (.arrive arrival)).Carries
      { service.agent with validators := arrival.validators } arrival service.flights.length
      Progress.received.remaining := by
  refine ⟨{ arrival, rules := service.agent.rules }, ?_, rfl, rfl, trivial, Nat.le_refl _⟩
  exact List.getElem?_concat_length

variable {alone arrival place} {left : Nat} {service : Service σ}

theorem FliesAlone.advanced {flight : Flight}
    (flies : FliesAlone alone arrival left service.agent flight) :
    FliesAlone alone arrival (left - 1) service.agent (service.advanced sink flight) := by
  obtain ⟨rfl, rfl, sound, steps⟩ := flies
  refine ⟨rfl, rfl, ?_, ?_⟩
  · exact sound.next _ _ _ (fun entry => (sink service.log entry).1) _
  · have fewer := Progress.remaining_next (flight.agentIn service.agent)
      { flight.arrival.around with log := fun entry => (sink service.log entry).1 }
      flight.arrival.request flight.progress
    exact Nat.le_trans fewer (Nat.sub_le_sub_right steps 1)

/-- The step lemma: one case for each kind of event. -/
theorem Carries.step (carries : service.Carries alone arrival place left) (event : ServiceEvent) :
    (service.step sink event).Carries alone arrival place
      (left - if event.advances place then 1 else 0) := by
  obtain ⟨flight, here, flies⟩ := carries
  have inside : place < service.flights.length := (List.getElem?_eq_some_iff.mp here).1
  cases event with
  | arrive other =>
      refine ⟨flight, ?_, flies⟩
      rw [← here]
      exact List.getElem?_append_left inside
  | reload files =>
      refine ⟨flight, here, flies.ofArrival, ?_, flies.sound, flies.left⟩
      rw [← flies.reads, Service.step, Agent.reload_agent]
      rfl
  | advance other =>
      by_cases same : other = place
      · subst same
        rw [ServiceEvent.advances, beq_self_eq_true, if_pos rfl, Service.step, here]
        exact ⟨service.advanced sink flight, List.getElem?_set_self inside, flies.advanced sink⟩
      · rw [ServiceEvent.advances, beq_false_of_ne same, Service.step]
        cases service.flights[other]? with
        | none => exact ⟨flight, here, flies⟩
        | some moved => exact ⟨flight, (List.getElem?_set_ne same).trans here, flies⟩

theorem Carries.run (carries : service.Carries alone arrival place left)
    (events : List ServiceEvent) :
    (service.run sink events).Carries alone arrival place
      (left - events.countP (ServiceEvent.advances place)) := by
  induction events generalizing service left with
  | nil => exact carries
  | cons event rest ih =>
      have tail := ih (carries.step sink event)
      rwa [Nat.sub_sub, Nat.add_comm, ← List.countP_cons] at tail

theorem Carries.account_eq (carries : service.Carries alone arrival place left)
    (account : Account) (ended : service.account? place = some account) :
    ∃ log, account = alone.handle { arrival.around with log } arrival.request := by
  obtain ⟨flight, here, flies⟩ := carries
  have sound := flies.sound
  rw [account?, here, Option.bind_some] at ended
  cases progress : flight.progress with
  | logged given =>
      rw [progress] at ended sound
      cases ended
      exact sound
  | _ =>
      rw [progress] at ended
      cases ended

theorem Carries.isSome_account (carries : service.Carries alone arrival place 0) :
    (service.account? place).isSome = true := by
  obtain ⟨flight, here, flies⟩ := carries
  rw [account?, here]
  exact flight.progress.isSome_account_of_remaining (Nat.le_zero.mp flies.left)

end Flight

end Service

/-! ## Exchanges that differ in time -/

/-- The response that shows a log entry. -/
def LogEntry.page (entry : LogEntry) : Response :=
  .ofContent 200 "application/json" (bytesOf entry.text)

/-- Two exchanges have come to the same, but for the times that are on their log entries. -/
structure Account.SameButForTime (mode : OperationMode) (one other : Account) : Prop where
  states : one.outcome.states = other.outcome.states
  blocked : one.outcome.blocked = other.outcome.blocked
  requestFindings : one.outcome.requestFindings = other.outcome.requestFindings
  responseFindings : one.outcome.responseFindings = other.outcome.responseFindings
  validatorFindings : one.outcome.validatorFindings = other.outcome.validatorFindings
  logEntry : { one.outcome.logEntry with timestamp := other.outcome.logEntry.timestamp } =
    other.outcome.logEntry
  response :
    match mode with
    | .waf => one.outcome.response = other.outcome.response
    | .testing => one.outcome.response = one.outcome.logEntry.page ∧
        other.outcome.response = other.outcome.logEntry.page
  forwarded : one.forwarded = other.forwarded
  deliveries : one.deliveries = other.deliveries

theorem Account.SameButForTime.outcome_eq {mode : OperationMode} {one other : Account}
    (same : one.SameButForTime mode other)
    (time : one.outcome.logEntry.timestamp = other.outcome.logEntry.timestamp) :
    one.outcome = other.outcome := by
  obtain ⟨states, blocked, requestFindings, responseFindings, validatorFindings, entry, response, -,
    -⟩ := same
  have sameEntry : one.outcome.logEntry = other.outcome.logEntry := by
    rw [← entry, ← time]
  have sameResponse : one.outcome.response = other.outcome.response := by
    cases mode with
    | waf => exact response
    | testing => rw [response.1, response.2, sameEntry]
  obtain ⟨⟨⟩⟩ := one
  obtain ⟨⟨⟩⟩ := other
  simp_all

/-- The log has no say in an exchange. -/
theorem Agent.handle_sameButForTime (agent : Agent) (around outside : Surroundings)
    (request : Request) (server : outside.forward = around.forward)
    (alerts : outside.alerts = around.alerts) :
    (agent.handle around request).SameButForTime agent.settings.mode
      (agent.handle outside request) := by
  obtain ⟨forward, sink, log, seconds, micros⟩ := outside
  cases server
  cases alerts
  refine ⟨rfl, rfl, rfl, rfl, rfl, rfl, ?_, rfl, rfl⟩
  simp only [handle, conclude, clientResponse]
  cases agent.settings.mode with
  | waf => rfl
  | testing => exact ⟨rfl, rfl⟩

/-! ## Reloading and isolation -/

/-- What a service does when it is told to load rules from files: if their directory is there, it
tells how many there are, and they are in force until others are loaded; if not, nothing changes. -/
structure Service.Reloads {σ : Type} (sink : LogSink σ) (service : Service σ) (files : FileTree) :
    Prop where
  success : files.isDirectory service.agent.settings.rulesDirectory = true →
    ∃ rules, (service.agent.settings.ruleSource.load files).value = .ok rules ∧
      (service.agent.reload files).value.1 = .ok rules.size ∧
      ∀ later, (∀ event ∈ later, event.loaded? service.agent.settings.ruleSource = none) →
        (service.run sink (.reload files :: later)).agent.rules = rules
  failure : files.isDirectory service.agent.settings.rulesDirectory = false →
    (service.agent.reload files).value.1 =
        .error (.noRulesDirectory service.agent.settings.rulesDirectory) ∧
      service.step sink (.reload files) = service

theorem Service.reloads {σ : Type} (sink : LogSink σ) (service : Service σ) (files : FileTree) :
    service.Reloads sink files := by
  constructor
  · intro present
    obtain ⟨rules, loaded⟩ := service.agent.settings.ruleSource.exists_load files present
    have reloaded := service.agent.reload_of_load files rules loaded
    refine ⟨rules, loaded, congrArg Prod.fst reloaded, ?_⟩
    intro later unloaded
    have inForce : (service.step sink (.reload files)).agent = { service.agent with rules } :=
      congrArg Prod.snd reloaded
    have kept := run_rules_of_unloaded sink (service.step sink (.reload files)) later
    rw [inForce] at kept
    exact kept unloaded
  · intro missing
    have failed := service.agent.reload_of_failure files _
      (service.agent.settings.ruleSource.load_of_missing files missing)
    refine ⟨congrArg Prod.fst failed, ?_⟩
    rw [Service.step, failed]

/-- An exchange of an agent that has seen any history goes on among any other events, and comes to
what the agent comes to alone with the rules that were in force when the exchange began, whatever the
log contains.  And whatever the history, rules are loaded anew as they should be. -/
theorem exchanges_keep_their_rules {σ : Type} (sink : LogSink σ) (agent : Agent) (log : σ)
    (before during : List ServiceEvent) (arrival : Arrival) :
    let service := Service.run sink { agent, log } before
    let place := service.flights.length
    let after := service.run sink (.arrive arrival :: during)
    let alone := { agent with rules := service.agent.rules, validators := arrival.validators }
    (∀ account, after.account? place = some account →
      ∀ outside : Surroundings, outside.forward = arrival.around.forward →
        outside.alerts = arrival.around.alerts →
        account.SameButForTime agent.settings.mode (alone.handle outside arrival.request) ∧
          (outside.unixSeconds = arrival.around.unixSeconds →
            account.outcome = (alone.handle outside arrival.request).outcome)) ∧
      (Progress.received.remaining ≤ during.countP (ServiceEvent.advances place) →
        (after.account? place).isSome = true) ∧
      ∀ files, service.Reloads sink files := by
  intro service place after alone
  have current : service.agent = { agent with rules := service.agent.rules } :=
    Service.run_agent sink { agent, log } before
  have carries : after.Carries alone arrival place
      (Progress.received.remaining - during.countP (ServiceEvent.advances place)) := by
    have began := service.carries_arrive sink arrival
    rw [current] at began
    exact began.run sink during
  refine ⟨?_, ?_, service.reloads sink⟩
  · intro account ended outside server alerts
    obtain ⟨answers, rfl⟩ := carries.account_eq account ended
    have same := alone.handle_sameButForTime { arrival.around with log := answers } outside
      arrival.request server alerts
    exact ⟨same, fun clock => same.outcome_eq clock.symm⟩
  · intro enough
    rw [Nat.sub_eq_zero_of_le enough] at carries
    exact carries.isSome_account

/-- An agent with a rule that blocks what it finds in a response. -/
def reloadedAgent : Agent where
  agentId := "reloaded"
  settings := { mode := .waf, rulesDirectory := "/rules" }
  rules :=
    { rules := [{ id := "leak"
                  info := { severity := .high, action := some .drop }
                  response := some { body := [{ mode := { literal := "secret" } }] } }] }

def singleEntrySink : LogSink (List LogEntry) := fun entries entry =>
  match entries with
  | [] => (.ok (), [entry])
  | _ :: _ => (.error (.logging "full"), entries)

/-- An arrival whose response has what the rule finds. -/
def leakingArrival : Arrival where
  request := {}
  validators := []
  around := { forward := fun _ => .ok { body := ⟨bytesOf "a secret", 0⟩ } }

def noRuleFiles : FileTree where
  root := .directory [("rules", .directory [])]

theorem exchanges_keep_their_rules_unloaded :
    let before := .arrive leakingArrival :: .reload {} :: List.replicate 8 (.advance 0)
    let during := List.replicate 4 (.advance 1) ++ .reload noRuleFiles ::
      List.replicate 4 (.advance 1)
    let service := Service.run singleEntrySink { agent := reloadedAgent, log := [] } before
    let after := service.run singleEntrySink (.arrive leakingArrival :: during)
    (service.agent.reload {}).value.1 = .error (.noRulesDirectory "/rules") ∧
      (∃ rules, (service.agent.reload noRuleFiles).value.1 = .ok rules.size ∧
        (service.run singleEntrySink [.reload noRuleFiles]).agent.rules = rules) ∧
      (after.account? 1).map (fun account => account.outcome.blocked) = some true ∧
      after.agent.rules.size = 0 := by
  intro before during service after
  obtain ⟨alike, enough, reloads⟩ := exchanges_keep_their_rules singleEntrySink reloadedAgent []
    before during leakingArrival
  have finished : (after.account? 1).isSome = true := enough (by decide +kernel)
  obtain ⟨account, given⟩ := Option.isSome_iff_exists.mp finished
  have same := (alike account given leakingArrival.around rfl rfl).1.blocked
  have refused := ((reloads {}).failure (by decide +kernel)).1
  obtain ⟨rules, -, counted, kept⟩ := (reloads noRuleFiles).success (by decide +kernel)
  refine ⟨refused, ⟨rules, counted, kept [] (List.forall_mem_nil _)⟩, ?_, by decide +kernel⟩
  rw [given, Option.map_some, same]
  decide +kernel

end HttpInspection
