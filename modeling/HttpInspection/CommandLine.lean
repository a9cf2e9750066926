import HttpInspection.Agent
import HttpInspection.Settings.Load

/-!
# The command line

A run reads the settings, loads the rules that they name, and reports what is active.  Nothing is
reported before the settings are known; what is wrong with them is a complaint.
-/

set_option autoImplicit false

namespace HttpInspection

def defaultSettingsPath : String := "agent.toml"

def programVersion : String := "0.1.0"

/-- The settings for a run: those in the file that the first argument names, or those in the usual
file, which need not be there. -/
def settingsOfArguments (files : FileTree) (arguments : List String) :
    Except SettingsFault AgentSettings :=
  match arguments with
  | path :: _ => (AgentSettings.load (AgentSettings.checked files) files path).value
  | [] =>
    (AgentSettings.loadOrDefault (AgentSettings.checked files) files defaultSettingsPath).value

/-! ## Reports -/

def NoticeLevel.capitals (level : NoticeLevel) : String :=
  level.word.map Char.toUpper

/-- The part of the program that gives a notice, as reports name it. -/
def Notice.origin : Notice → String
  | agentStarting _ _ _ | engineReady _ _ | rulesUnavailable _ => "r0n_agent"
  | _ => "r0n_agent::modules::waf::loader"

def NoticeValue.toJson : NoticeValue → Json
  | text value => Json.ofString value
  | number value => Json.ofInt value

def NoticeValue.shown : NoticeValue → String
  | text value => quoted value
  | number value => toString value

namespace Notice

def fieldsToJson (notice : Notice) : Json :=
  Json.ofEntries
    (("message", Json.ofString notice.message) ::
      notice.fields.map fun field => (field.1, field.2.toJson))

def toJson (notice : Notice) : Json :=
  Json.ofEntries
    [("level", Json.ofString notice.level.capitals),
     ("fields", notice.fieldsToJson),
     ("target", Json.ofString notice.origin)]

def line (notice : Notice) : String :=
  let fields := notice.fields.map fun field => s!" {field.1}={field.2.shown}"
  s!"{notice.level.capitals} {notice.origin}: {notice.message}" ++ String.join fields

def lines (notice : Notice) : String :=
  let fields := notice.fields.map fun field => s!"\n    {field.1}: {field.2.shown}"
  s!"{notice.level.capitals} {notice.origin}: {notice.message}" ++ String.join fields

def written (format : ReportFormat) (notice : Notice) : String :=
  match format with
  | .json => notice.toJson.compact
  | .compact => notice.line
  | .pretty => notice.lines

end Notice

namespace ReportSettings

def admits (settings : ReportSettings) (notice : Notice) : Bool :=
  settings.level.rank ≤ notice.level.rank

end ReportSettings

/-! ## Runs -/

/-- How a run ends: whether it has succeeded, the complaint if there is one, and the reports. -/
structure Completion where
  succeeded : Bool
  complaint : String := ""
  format : ReportFormat := .pretty
  reports : List Notice := []
  deriving Repr, DecidableEq

namespace Completion

def code (completion : Completion) : Nat :=
  if completion.succeeded then 0 else 1

def output (completion : Completion) : List String :=
  completion.reports.map (Notice.written completion.format)

end Completion

/-- The notices of a run whose settings are known, and whether its rules could be loaded. -/
def startAgent (settings : AgentSettings) (files : FileTree) : Traced Bool := do
  Traced.notice
    (.agentStarting programVersion settings.agent.id settings.agent.displayName)
  match ← settings.waf.ruleSource.load files with
  | .ok rules =>
    Traced.notice (.engineReady rules.size settings.waf.mode.word)
    return true
  | .error failure =>
    Traced.notice (.rulesUnavailable failure)
    return false

def runProgram (files : FileTree) (arguments : List String) : Completion :=
  match settingsOfArguments files arguments with
  | .error fault => { succeeded := false, complaint := s!"r0n-agent: {fault.message}\n" }
  | .ok settings =>
    let started := startAgent settings files
    { succeeded := started.value
      format := settings.logging.format
      reports := started.notices.filter settings.logging.admits }

end HttpInspection
