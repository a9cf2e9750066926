import HttpInspection.Finding
import HttpInspection.Rule.RuleSet

/-!
# Decisions

Whether findings block an exchange.  A finding blocks unless its rule allows; a rule that declares
no action does not allow, nor does a finding that is of no rule of the set.
-/

set_option autoImplicit false

namespace HttpInspection

/-- Whether an exchange is blocked, and the rule on whose account. -/
structure Decision where
  blockedBy : Option String
  deriving Repr, DecidableEq

def Decision.blocked (decision : Decision) : Bool :=
  decision.blockedBy.isSome

namespace RuleSet

def blocks (set : RuleSet) (finding : Finding) : Bool :=
  set.action? finding.ruleId != some .allow

/-- The decision on findings: the first one that blocks names the rule. -/
def decide (set : RuleSet) (findings : List Finding) : Decision :=
  ⟨(findings.find? set.blocks).map Finding.ruleId⟩

/-- The action of a rule as a word; empty if there is no such rule or it declares none. -/
def actionWord (set : RuleSet) (id : String) : String :=
  ((set.action? id).map Action.word).getD ""

end RuleSet

end HttpInspection
