import HttpInspection.FileTree
import HttpInspection.Text.Blank
import HttpInspection.Validator

/-!
# Blacklisted user agents

A request whose user agent contains a blacklisted text has one finding for each such text.
-/

set_option autoImplicit false

namespace HttpInspection

open Http

/-- The texts that a user agent must not contain, without blanks at their ends and none empty. -/
structure UserAgentBlacklist where
  entries : List String := []
  deriving Repr, DecidableEq

namespace UserAgentBlacklist

def ruleId : String := "user-agent-blacklist"

def classification : String := "Script UA"

/-- The blacklist of some lines; blank lines are left out. -/
def ofLines (lines : List String) : UserAgentBlacklist :=
  ⟨(lines.map trim).filter fun line => !line.isEmpty⟩

def ofText (text : String) : UserAgentBlacklist :=
  ofLines ((splitLines text.toList).map String.ofList)

def ofFile (files : FileTree) (path : String) : Except Failure UserAgentBlacklist :=
  match files.readText path with
  | .ok text => .ok (ofText text)
  | .error fault => .error (.ruleFile path fault.message)

def finding (entry : String) : Finding :=
  { Finding.ofText ruleId .medium entry with
    ruleName := "Blacklisted User-Agent", classification }

def findingsIn (blacklist : UserAgentBlacklist) (userAgent : String) : List Finding :=
  (blacklist.entries.filter fun entry => occursIn entry.toList userAgent.toList).map finding

/-- The findings in a request: in the first value of its user agent, if it has one. -/
def findings (blacklist : UserAgentBlacklist) (request : Request) : List Finding :=
  match request.headers.get? "user-agent" with
  | some value => blacklist.findingsIn (lossyText value)
  | none => []

def validator (blacklist : UserAgentBlacklist) : Validator where
  name := "user-agent"
  onRequest := fun request => ⟨(.ok (blacklist.findings request), request), []⟩
  onResponse := fun response => ⟨(.ok [], response), []⟩

end UserAgentBlacklist

end HttpInspection
