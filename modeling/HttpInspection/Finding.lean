import HttpInspection.Rule.Basic
import HttpInspection.Text.Utf8

/-!
# Findings and alerts

A finding is one match.  A textual finding has the matched text and, once it is resolved, the line
and the byte offset of the text in the raw exchange; a hash finding has the digest of a body and no
place.  An alert tells that a rule has matched.
-/

set_option autoImplicit false

namespace HttpInspection

inductive HashAlgorithm where
  | md5
  | sha256
  deriving Repr, DecidableEq

def HashAlgorithm.name : HashAlgorithm → String
  | md5 => "MD5"
  | sha256 => "SHA256"

structure Finding where
  ruleId : String
  ruleName : String := ""
  ruleDescription : String := ""
  line : Int := -1
  lineIndex : Int := -1
  length : Nat
  matchedString : String
  matchedBodyHash : Option String := none
  matchedBodyHashAlg : Option HashAlgorithm := none
  classification : String := ""
  severity : Severity
  deriving Repr, DecidableEq

namespace Finding

def ofText (ruleId : String) (severity : Severity) (text : String) : Finding where
  ruleId := ruleId
  length := (bytesOf text).length
  matchedString := text
  severity := severity

def ofRule (rule : Rule) (text : String) : Finding :=
  { ofText rule.id rule.info.severity text with
    ruleName := rule.info.name
    ruleDescription := rule.info.description
    classification := rule.info.classification }

def ofHash (rule : Rule) (algorithm : HashAlgorithm) (digest : String) : Finding :=
  { ofRule rule "" with
    length := (bytesOf digest).length
    matchedBodyHash := some digest
    matchedBodyHashAlg := some algorithm }

def placed (finding : Finding) (line lineIndex : Nat) : Finding :=
  { finding with line := line, lineIndex := lineIndex }

def isHash (finding : Finding) : Bool :=
  finding.matchedBodyHash.isSome

/-- Whether a finding needs no place any more. -/
def isResolved (finding : Finding) : Bool :=
  finding.isHash || (0 ≤ finding.line && 0 ≤ finding.lineIndex)

end Finding

/-- The news that a rule has matched. -/
structure Alert where
  agentId : String
  ruleId : String
  ruleName : String
  ruleDescription : String
  classification : String
  severity : Severity
  deriving Repr, DecidableEq

def Alert.ofRule (agentId : String) (rule : Rule) : Alert where
  agentId := agentId
  ruleId := rule.id
  ruleName := rule.info.name
  ruleDescription := rule.info.description
  classification := rule.info.classification
  severity := rule.info.severity

end HttpInspection
