import HttpInspection.Failure
import HttpInspection.Text.Quoted

/-!
# Notices

What the engine tells about its work.  Functions that have something to tell give it beside their
value, in order.
-/

set_option autoImplicit false

namespace HttpInspection

inductive NoticeLevel where
  | trace
  | debug
  | info
  | warn
  | error
  deriving Repr, DecidableEq

/-- The importance of a level: the greater, the more important. -/
def NoticeLevel.rank : NoticeLevel → Nat
  | trace => 0
  | debug => 1
  | info => 2
  | warn => 3
  | error => 4

def NoticeLevel.word : NoticeLevel → String
  | trace => "trace"
  | debug => "debug"
  | info => "info"
  | warn => "warn"
  | error => "error"

inductive NoticeValue where
  | text (value : String)
  | number (value : Nat)
  deriving Repr, DecidableEq

/-- The half of an exchange that a notice is about. -/
inductive Stage where
  | request
  | response
  deriving Repr, DecidableEq

def Stage.word : Stage → String
  | request => "request"
  | response => "response"

inductive Notice where
  | decodeStopped (failure : Failure)
  | searchSkipped (failure : Failure)
  | parameterSkipped (pair : String) (failure : Failure)
  | alertUndelivered (ruleId : String) (failure : Failure)
  | findingDropped (ruleId : String) (failure : Failure)
  | validatorFailed (stage : Stage) (validator : String) (failure : Failure)
  | blocked (stage : Stage) (ruleId : String)
  | forwardFailed (failure : Failure)
  | logFailed (failure : Failure)
  | directoryIgnored (path : String)
  | notARuleFile (path : String)
  | ruleLoaded (path : String)
  | ruleFileSkipped (path : String) (failure : Failure)
  | rulesLoaded (directory : String) (loaded skipped : Nat)
  | rulesReloaded (count : Nat)
  | blacklistUnavailable (failure : Failure)
  | forbiddenPageUnavailable (path reason : String)
  | settingDoubtful (check field message : String)
  | agentStarting (version agentId displayName : String)
  | engineReady (rules : Nat) (mode : String)
  | rulesUnavailable (failure : Failure)
  deriving Repr, DecidableEq

namespace Notice

def level : Notice → NoticeLevel
  | decodeStopped _ => .trace
  | ruleLoaded _ => .debug
  | blocked _ _ | directoryIgnored _ | rulesLoaded _ _ _ | rulesReloaded _ | agentStarting _ _ _
  | engineReady _ _ => .info
  | parameterSkipped _ _ | findingDropped _ _ | notARuleFile _ | ruleFileSkipped _ _
  | blacklistUnavailable _ | forbiddenPageUnavailable _ _ | settingDoubtful _ _ _ => .warn
  | searchSkipped _ | alertUndelivered _ _ | validatorFailed _ _ _ | forwardFailed _ | logFailed _
  | rulesUnavailable _ => .error

def message : Notice → String
  | decodeStopped _ => "decode step failed, keeping partial candidate"
  | searchSkipped _ => "search skipped"
  | parameterSkipped _ _ => "skipping malformed parameter"
  | alertUndelivered _ _ => "cannot deliver alert"
  | findingDropped _ _ => "dropping finding"
  | validatorFailed .request _ _ => "request validator failed"
  | validatorFailed .response _ _ => "response validator failed"
  | blocked .request _ => "request blocked"
  | blocked .response _ => "response blocked"
  | forwardFailed _ => "cannot forward request"
  | logFailed _ => "cannot log exchange"
  | directoryIgnored _ => "skipping ignored rules directory"
  | notARuleFile _ => "skipping rule file, not a .yaml file"
  | ruleLoaded _ => "loaded rule"
  | ruleFileSkipped _ _ => "skipping rule file"
  | rulesLoaded _ _ _ => "rules loaded"
  | rulesReloaded _ => "rules reloaded"
  | blacklistUnavailable _ => "user-agent blacklist unavailable, validator disabled"
  | forbiddenPageUnavailable _ _ => "cannot read forbidden page, using fallback"
  | settingDoubtful _ _ message => message
  | agentStarting _ _ _ => "starting agent"
  | engineReady _ _ => "detection engine ready"
  | rulesUnavailable _ => "cannot load rules"

def fields : Notice → List (String × NoticeValue)
  | decodeStopped failure | searchSkipped failure | forwardFailed failure | logFailed failure
  | blacklistUnavailable failure | rulesUnavailable failure => [("error", .text failure.message)]
  | parameterSkipped pair failure => [("pair", .text pair), ("error", .text failure.message)]
  | alertUndelivered ruleId failure | findingDropped ruleId failure =>
    [("rule_id", .text ruleId), ("error", .text failure.message)]
  | validatorFailed _ validator failure =>
    [("validator", .text validator), ("error", .text failure.message)]
  | blocked _ ruleId =>
    let shown := quoted ruleId
    [("rule_id", .text s!"Some({shown})")]
  | forbiddenPageUnavailable path reason =>
    [("path", .text path), ("error", .text reason)]
  | directoryIgnored path | notARuleFile path | ruleLoaded path => [("path", .text path)]
  | ruleFileSkipped path failure => [("path", .text path), ("error", .text failure.message)]
  | rulesLoaded directory loaded skipped =>
    [("directory", .text directory), ("loaded", .number loaded), ("skipped", .number skipped)]
  | rulesReloaded count => [("rules", .number count)]
  | settingDoubtful check field _ => [("validator", .text check), ("field", .text field)]
  | agentStarting version agentId displayName =>
    [("version", .text version), ("agent_id", .text agentId), ("agent", .text displayName)]
  | engineReady rules mode => [("rules", .number rules), ("mode", .text mode)]

end Notice

/-- A value with the notices given on the way to it. -/
structure Traced (α : Type) where
  value : α
  notices : List Notice := []

namespace Traced

instance : Monad Traced where
  pure a := ⟨a, []⟩
  bind x f := ⟨(f x.value).value, x.notices ++ (f x.value).notices⟩

def notice (n : Notice) : Traced Unit := ⟨(), [n]⟩

/-- The values of a list of traced values, with all their notices in order. -/
def collect {α : Type} (items : List (Traced α)) : Traced (List α) :=
  ⟨items.map Traced.value, items.flatMap Traced.notices⟩

end Traced

end HttpInspection
