/-!
# Failures

What can go wrong while rules are loaded and exchanges are inspected.  Only a missing rules
directory stops the caller; every other failure skips the work at hand.
-/

set_option autoImplicit false

namespace HttpInspection

/-- A word that is none of the words of its kind. -/
inductive TokenFault where
  | severity (word : String)
  | action (word : String)
  | encoding (word : String)
  | mode (word : String)
  deriving Repr, DecidableEq

namespace TokenFault

def message : TokenFault → String
  | severity word => s!"severity '{word}' is not one of: low, medium, high, critical"
  | action word => s!"action '{word}' is not one of: allow, drop"
  | encoding word => s!"unsupported encoding '{word}'"
  | mode word => s!"unknown operation mode '{word}', expected testing or waf"

end TokenFault

inductive Failure where
  | ruleFile (path reason : String)
  | invalidRule (reason : String)
  /-- A pattern did not compile while matching. -/
  | pattern (text reason : String)
  | undecodable (encoding reason : String)
  | alertRefused (reason : String)
  /-- A matched text does not occur in the raw exchange. -/
  | unlocated (text : String)
  | noRulesDirectory (path : String)
  | logging (reason : String)
  | environment (reason : String)
  deriving Repr, DecidableEq

namespace Failure

def message : Failure → String
  | ruleFile path reason => s!"failed to load rule file '{path}': {reason}"
  | invalidRule reason => s!"invalid rule: {reason}"
  | pattern text reason => s!"cannot compile matcher regex '{text}': {reason}"
  | undecodable encoding reason => s!"cannot decode value as {encoding}: {reason}"
  | alertRefused reason => s!"alert delivery failed: {reason}"
  | unlocated text => s!"matched string '{text}' not found in raw exchange"
  | noRulesDirectory path => s!"rules directory '{path}' does not exist"
  | logging reason => s!"logging error: {reason}"
  | environment reason => s!"io error: {reason}"

/-- Whether the failure only skips work instead of stopping the caller. -/
def isRecoverable : Failure → Bool
  | noRulesDirectory _ => false
  | _ => true

end Failure

end HttpInspection
