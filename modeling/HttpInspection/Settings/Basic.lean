import HttpInspection.ExchangeLog
import HttpInspection.Rule.Token
import HttpInspection.Rule.Tree

/-!
# Settings

What an agent is told about itself: who it is, what it reports about its work, and how it inspects.
Every setting has a default.
-/

set_option autoImplicit false

namespace HttpInspection

/-- Whether findings only show, or block. -/
inductive OperationMode where
  | testing
  | waf
  deriving Repr, DecidableEq

namespace OperationMode

def word : OperationMode → String
  | testing => "testing"
  | waf => "waf"

def shown : OperationMode → String
  | testing => "Testing"
  | waf => "Waf"

def blocks (mode : OperationMode) : Bool :=
  mode == waf

def parse (text : String) : Except TokenFault OperationMode :=
  match canonicalWord text with
  | "testing" => .ok testing
  | "waf" => .ok waf
  | _ => .error (.mode text)

end OperationMode

structure InspectionSettings where
  mode : OperationMode := .testing
  rulesDirectory : String := "rules"
  ignoredDirectories : List String := []
  blacklistPath : Option String := none
  forbiddenPagePath : Option String := none
  exchangeLog : LogSettings := {}
  deriving Repr, DecidableEq

def InspectionSettings.ruleSource (settings : InspectionSettings) : RuleSource :=
  ⟨settings.rulesDirectory, settings.ignoredDirectories⟩

structure Identity where
  id : String := "r0n-agent"
  name : Option String := none
  deriving Repr, DecidableEq

/-- The name that is shown: the identifier, unless there is another. -/
def Identity.displayName (identity : Identity) : String :=
  identity.name.getD identity.id

inductive ReportFormat where
  | json
  | pretty
  | compact
  deriving Repr, DecidableEq

def ReportFormat.word : ReportFormat → String
  | json => "json"
  | pretty => "pretty"
  | compact => "compact"

structure ReportSettings where
  level : NoticeLevel := .info
  format : ReportFormat := .pretty
  deriving Repr, DecidableEq

structure AgentSettings where
  agent : Identity := {}
  logging : ReportSettings := {}
  waf : InspectionSettings := {}
  deriving Repr, DecidableEq

end HttpInspection
