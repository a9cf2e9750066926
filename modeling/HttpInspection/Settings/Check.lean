import HttpInspection.FileTree
import HttpInspection.Settings.Basic
import HttpInspection.Text.Blank

/-!
# Checks of settings

What is wrong with settings beyond their form: errors, with which an agent cannot start, and
warnings, with which it starts but does less.
-/

set_option autoImplicit false

namespace HttpInspection

inductive Gravity where
  | error
  | warning
  deriving Repr, DecidableEq

def Gravity.word : Gravity → String
  | error => "error"
  | warning => "warning"

structure Issue where
  field : String
  message : String
  gravity : Gravity
  deriving Repr, DecidableEq

namespace Issue

/-- An issue with which an agent cannot start. -/
def error (field message : String) : Issue := ⟨field, message, .error⟩

/-- An issue with which an agent does less. -/
def warning (field message : String) : Issue := ⟨field, message, .warning⟩

def text (issue : Issue) : String :=
  s!"{issue.field}: {issue.message}"

def isError (issue : Issue) : Bool :=
  issue.gravity == .error

end Issue

def issueIf (condition : Bool) (issue : Issue) : List Issue :=
  if condition then [issue] else []

/-! ## The directory of a path -/

/-- A path without the parts at its end that lead nowhere. -/
def dropIdleParts (parts : List (List Char)) : List (List Char) :=
  (parts.reverse.dropWhile fun part => part.isEmpty || part == ['.']).reverse

/-- The directory that a path lies in: the path without its last part.  The root of all files lies
in none. -/
def parentPath? (path : String) : Option String :=
  let chars := path.toList
  let rooted := chars.head?.any (· == '/')
  let here := chars == ['.'] || startsWith ['.', '/'] chars
  let front := if rooted || here then chars.take 1 else []
  match dropIdleParts (splitAtEvery (· == '/') (chars.drop front.length)) with
  | [] => if here then some "" else none
  | parts => some (String.ofList (front ++ joinWith ['/'] (dropIdleParts parts.dropLast)))

/-! ## The checks -/

namespace AgentSettings

def identityIssues (settings : AgentSettings) : List Issue :=
  issueIf (isBlankText settings.agent.id) (.error "agent.id" "must not be empty")

def directoryIssues (files : FileTree) (settings : AgentSettings) : List Issue :=
  let directory := settings.waf.rulesDirectory
  if directory.isEmpty then [.error "waf.rules_directory" "must not be empty"]
  else issueIf (!files.isDirectory directory)
    (.warning "waf.rules_directory" s!"{directory} is not a directory yet")

def ignoredIssues (settings : AgentSettings) : List Issue :=
  settings.waf.ignoredDirectories.flatMap fun name =>
    issueIf (name.toList.any fun c => c == '/' || c == '\\')
      (.warning "waf.ignore_rules_directories"
        s!"'{name}' is matched against directory names, not paths")

def logIssues (files : FileTree) (settings : AgentSettings) : List Issue :=
  let log := settings.waf.exchangeLog
  let missing := (log.filePath.bind parentPath?).toList.filter fun parent =>
    !parent.isEmpty && !files.isDirectory parent
  issueIf (log.maxEntries == 0)
      (.error "waf.exchange_log.max_entries" "must keep at least one entry") ++
    missing.map fun parent =>
      .warning "waf.exchange_log.file_path" s!"{parent} does not exist, entries stay in memory"

def fileIssues (files : FileTree) (field consequence : String) (path : Option String) :
    List Issue :=
  path.toList.flatMap fun path =>
    issueIf (!files.isFile path) (.warning field s!"{path} not found, {consequence}")

def issues (files : FileTree) (settings : AgentSettings) : List Issue :=
  settings.identityIssues ++ settings.directoryIssues files ++ settings.ignoredIssues ++
    settings.logIssues files ++
    fileIssues files "waf.user_agent_blacklist_path" "user-agent validator disabled"
      settings.waf.blacklistPath ++
    fileIssues files "waf.forbidden_page_path" "blocked exchanges get the plain fallback page"
      settings.waf.forbiddenPagePath

end AgentSettings

end HttpInspection
