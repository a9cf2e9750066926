import HttpInspection.Rule.Basic

/-!
# Rule sets

Rules in the order in which they were accepted, with an index of their places.  A rule is accepted
when its identifier is not blank, all its patterns compile, and no rule before it has the same
identifier.
-/

set_option autoImplicit false

namespace HttpInspection

inductive RuleFault where
  | blankId
  | badPattern (path : String)
  | duplicateId (id : String)
  deriving Repr, DecidableEq

namespace RuleFault

def reason : RuleFault → String
  | blankId => "rule id cannot be empty"
  | badPattern path => s!"cannot compile regex for {path}: {SearchMode.badPattern}"
  | duplicateId id => s!"a rule with id '{id}' already exists"

def failure (fault : RuleFault) : Failure :=
  .invalidRule fault.reason

end RuleFault

/-- Whether the pattern of a search compiles, or there is none. -/
def SearchMode.compiles (mode : SearchMode) : Bool :=
  mode.compiled.isOk

/-- The first fault of a rule taken by itself: a blank identifier, or the first search in the order
of the paths whose pattern does not compile. -/
def Rule.validate (rule : Rule) : Except RuleFault Unit :=
  if isBlankText rule.id then .error .blankId
  else
    match rule.searchModes.find? fun entry => !entry.2.compiles with
    | some (path, _) => .error (.badPattern path)
    | none => .ok ()

/-- Rules in the order in which they were accepted, and the place of each under its identifier.  Of
several entries of the index for one identifier the first counts. -/
structure RuleSet where
  rules : List Rule := []
  index : List (String × Nat) := rules.zipIdx.map fun (rule, place) => (rule.id, place)
  deriving Repr

namespace RuleSet

def get? (set : RuleSet) (id : String) : Option Rule :=
  (set.index.lookup id).bind fun place => set.rules[place]?

def contains (set : RuleSet) (id : String) : Bool :=
  (set.index.lookup id).isSome

def size (set : RuleSet) : Nat :=
  set.rules.length

def isEmpty (set : RuleSet) : Bool :=
  set.rules.isEmpty

def action? (set : RuleSet) (id : String) : Option Action :=
  (set.get? id).bind fun rule => rule.info.action

/-- The set with one more rule at its end, whose searches have inherited their encodings. -/
def add (set : RuleSet) (rule : Rule) : Except RuleFault RuleSet := do
  rule.validate
  if set.contains rule.id then .error (.duplicateId rule.id)
  else
    .ok
      { rules := set.rules ++ [rule.inheritEncodings]
        index := (rule.id, set.rules.length) :: set.index }

/-- The set after a rule was offered: unchanged if the rule was not accepted. -/
def offer (set : RuleSet) (rule : Rule) : RuleSet :=
  match set.add rule with
  | .ok grown => grown
  | .error _ => set

end RuleSet

end HttpInspection
