import HttpInspection.Settings.Check
import HttpInspection.Settings.Record

/-!
# Loading settings

Settings come from a text, from a file, or, if the file is missing and need not be there, from the
defaults.  When they are checked, warnings are told and errors are fatal.
-/

set_option autoImplicit false

namespace HttpInspection

inductive SettingsFault where
  | missing (path : String)
  | unreadable (path reason : String)
  | malformed (fault : DocumentFault)
  | rejected (issues : List String)
  deriving Repr, DecidableEq

def SettingsFault.message : SettingsFault → String
  | missing path => s!"agent config '{path}' does not exist"
  | unreadable path reason => s!"cannot read agent config '{path}': {reason}"
  | malformed fault => s!"malformed agent config: TOML parse error: {fault.message}"
  | rejected issues => "invalid agent config: " ++ "; ".intercalate issues

namespace AgentSettings

def checkName : String := "basic"

/-- Checked settings: the warnings are told, and errors are fatal. -/
def checked (files : FileTree) (settings : AgentSettings) :
    Traced (Except SettingsFault AgentSettings) :=
  let (errors, warnings) := (settings.issues files).partition Issue.isError
  { value := if errors.isEmpty then .ok settings else .error (.rejected (errors.map Issue.text))
    notices := warnings.map fun issue => .settingDoubtful checkName issue.field issue.message }

def unchecked (settings : AgentSettings) : Traced (Except SettingsFault AgentSettings) :=
  ⟨.ok settings, []⟩

/-- What becomes of settings that were read. -/
abbrev Acceptance := AgentSettings → Traced (Except SettingsFault AgentSettings)

def ofText (accept : Acceptance) (text : String) : Traced (Except SettingsFault AgentSettings) :=
  match parse text with
  | .ok settings => accept settings
  | .error fault => ⟨.error (.malformed fault), []⟩

def load (accept : Acceptance) (files : FileTree) (path : String) :
    Traced (Except SettingsFault AgentSettings) :=
  if files.pathExists path then
    match files.readText path with
    | .ok text => ofText accept text
    | .error fault => ⟨.error (.unreadable path fault.message), []⟩
  else ⟨.error (.missing path), []⟩

/-- The settings in a file, or the defaults if there is no such file. -/
def loadOrDefault (accept : Acceptance) (files : FileTree) (path : String) :
    Traced (Except SettingsFault AgentSettings) :=
  if files.pathExists path then load accept files path else accept {}

end AgentSettings

end HttpInspection
