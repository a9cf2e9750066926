import HttpInspection.Decision
import HttpInspection.Settings.Basic
import HttpInspection.Statistics
import HttpInspection.UserAgent

/-!
# Agents

An agent has a set of rules, validators beside them, and a page for exchanges that it blocks.  The
set of rules can be loaded anew; when that fails, the agent keeps the set that it has.
-/

set_option autoImplicit false

namespace HttpInspection

def plainForbiddenPage : List UInt8 :=
  bytesOf "Forbidden"

structure Agent where
  agentId : String
  settings : InspectionSettings := {}
  rules : RuleSet := {}
  validators : List Validator := []
  forbiddenPage : List UInt8 := plainForbiddenPage

namespace Agent

def withValidator (agent : Agent) (validator : Validator) : Agent :=
  { agent with validators := agent.validators ++ [validator] }

def withBlacklist (agent : Agent) (files : FileTree) : Traced Agent :=
  match agent.settings.blacklistPath with
  | none => ⟨agent, []⟩
  | some path =>
    match UserAgentBlacklist.ofFile files path with
    | .ok blacklist => ⟨agent.withValidator blacklist.validator, []⟩
    | .error failure => ⟨agent, [.blacklistUnavailable failure]⟩

def withForbiddenPage (agent : Agent) (files : FileTree) : Traced Agent :=
  match agent.settings.forbiddenPagePath with
  | none => ⟨agent, []⟩
  | some path =>
    match files.readBytes path with
    | .ok page => ⟨{ agent with forbiddenPage := page }, []⟩
    | .error fault => ⟨agent, [.forbiddenPageUnavailable path fault.message]⟩

/-- The agent that settings describe. Only missing rules are a failure. -/
def ofSettings (agentId : String) (settings : InspectionSettings) (files : FileTree) :
    Traced (Except Failure Agent) := do
  match ← settings.ruleSource.load files with
  | .error failure => return .error failure
  | .ok rules =>
    let agent : Agent := { agentId, settings, rules }
    let agent ← agent.withBlacklist files
    let agent ← agent.withForbiddenPage files
    return .ok agent

/-- The agent after its rules were loaded anew, and the number of its rules.  A failure leaves the
agent as it is. -/
def reload (agent : Agent) (files : FileTree) : Traced (Except Failure Nat × Agent) := do
  match ← agent.settings.ruleSource.load files with
  | .error failure => return (.error failure, agent)
  | .ok rules =>
    Traced.notice (.rulesReloaded rules.size)
    return (.ok rules.size, { agent with rules })

def shown (agent : Agent) : String :=
  "AgentHandler \x7b agent_id: " ++ quoted agent.agentId ++ ", mode: " ++ agent.settings.mode.shown ++
    ", rules: " ++ toString agent.rules.size ++ ", validators: " ++
    toString agent.validators.length ++ " \x7d"

end Agent

end HttpInspection
