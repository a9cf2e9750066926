import HttpInspection.Failure
import HttpInspection.Text.Blank
import HttpInspection.Text.Lowercase

/-!
# Words of rules

The severities, actions and encodings that rules name.  A word is read without the blanks around it
and in lower case.
-/

set_option autoImplicit false

namespace HttpInspection

/-- A word as it is compared: without the blanks around it, in lower case. -/
def canonicalWord (word : String) : String :=
  lowercase (trim word)

inductive Severity where
  | low
  | medium
  | high
  | critical
  deriving Repr, DecidableEq

namespace Severity

def word : Severity → String
  | low => "low"
  | medium => "medium"
  | high => "high"
  | critical => "critical"

def level : Severity → Nat
  | low => 0
  | medium => 1
  | high => 2
  | critical => 3

def raisesAlert (s : Severity) : Bool :=
  high.level ≤ s.level

def parse (text : String) : Except TokenFault Severity :=
  match canonicalWord text with
  | "low" => .ok low
  | "medium" => .ok medium
  | "high" => .ok high
  | "critical" => .ok critical
  | _ => .error (.severity text)

end Severity

inductive Action where
  | allow
  | drop
  deriving Repr, DecidableEq

namespace Action

def word : Action → String
  | allow => "allow"
  | drop => "drop"

def parse (text : String) : Except TokenFault Action :=
  match canonicalWord text with
  | "allow" => .ok allow
  | "drop" => .ok drop
  | _ => .error (.action text)

/-- The action that an optional word names; a blank word names none. -/
def parseOptional (text : Option String) : Except TokenFault (Option Action) :=
  match text.map trim with
  | none => .ok none
  | some "" => .ok none
  | some word => (parse word).map some

end Action

/-- A way to write a value so that it passes a plain search. -/
inductive Encoding where
  | base64
  | url
  deriving Repr, DecidableEq

namespace Encoding

def word : Encoding → String
  | base64 => "base64"
  | url => "url"

def parse (text : String) : Except TokenFault Encoding :=
  match canonicalWord text with
  | "base64" => .ok base64
  | "url" => .ok url
  | _ => .error (.encoding text)

end Encoding

end HttpInspection
