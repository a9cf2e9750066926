import HttpInspection.Regex.Pattern

/-!
# Bracketed sets

Sets of characters written in brackets: single characters, ranges, abbreviations, named ASCII
classes, nested brackets, and the operations `&&`, `--` and `~~`, which associate to the left.
-/

set_option autoImplicit false

namespace HttpInspection.Regex.Pattern

inductive SetOperation where
  | intersection
  | difference
  | symmetricDifference
  deriving Repr, DecidableEq

/-- An open bracket: whether it denies its members, the union read so far, and the operation that
waits for its second operand. -/
structure OpenSet where
  negated : Bool
  union : Ranges := []
  waiting : Option (SetOperation × Ranges) := none

def OpenSet.value (flags : Flags) (s : OpenSet) : Ranges :=
  match s.waiting with
  | none => s.union
  | some (operation, first) =>
    let first := closeSet flags false first
    let second := closeSet flags false s.union
    match operation with
    | .intersection => CharSet.inter first second
    | .difference => CharSet.diff first second
    | .symmetricDifference => CharSet.symmDiff first second

def OpenSet.add (s : OpenSet) (members : Ranges) : OpenSet :=
  { s with union := CharSet.union s.union members }

def asciiClass? (name : String) : Option Ranges :=
  match name with
  | "alnum" => some [(48, 57), (65, 90), (97, 122)]
  | "alpha" => some [(65, 90), (97, 122)]
  | "ascii" => some [(0, 127)]
  | "blank" => some [(9, 9), (32, 32)]
  | "cntrl" => some [(0, 31), (127, 127)]
  | "digit" => some [(48, 57)]
  | "graph" => some [(33, 126)]
  | "lower" => some [(97, 122)]
  | "print" => some [(32, 126)]
  | "punct" => some [(33, 47), (58, 64), (91, 96), (123, 126)]
  | "space" => some [(9, 13), (32, 32)]
  | "upper" => some [(65, 90)]
  | "word" => some asciiWord
  | "xdigit" => some [(48, 57), (65, 70), (97, 102)]
  | _ => none

/-- The named class at the start of a pattern, with what follows it. -/
def namedClass? (flags : Flags) (pattern : List Char) : Option (Ranges × List Char) := do
  let body ← match pattern with
    | '[' :: ':' :: rest => some rest
    | _ => none
  let (negated, body) := match body with
    | '^' :: rest => (true, rest)
    | rest => (false, rest)
  let name := body.takeWhile (· != ':')
  let rest ← match body.drop name.length with
    | ':' :: ']' :: rest => some rest
    | _ => none
  let set ← asciiClass? (String.ofList name)
  some (closeSet flags negated set, rest)

/-- The start of a bracket, which is next: a denial, and the dashes or the closing bracket that stand
for themselves there. -/
def openBracket : Reader OpenSet := do
  bump
  let negated := (← peek) == '^'
  if negated then bump
  let fuel := (← get).rest.length + 1
  let count ← dashes fuel
  let literalDashes : Ranges := if count = 0 then [] else CharSet.single 45
  if count = 0 && (← peek) == ']' then
    bump
    let _ ← peek
    return { negated, union := CharSet.single 93 }
  else return { negated, union := literalDashes }
where
  dashes : Nat → Reader Nat
    | 0 => refuse
    | fuel + 1 => do
      if (← peek) == '-' then
        bump
        return (← dashes fuel) + 1
      else return 0

/-- One member of a bracket before it is known whether it starts a range. -/
def member : Reader Escape := do
  let c ← peek
  if c == '\\' then escape
  else
    skip 1
    return .literal c false

def memberPoint (flags : Flags) : Escape → Option Nat
  | .literal c isByte =>
    if flags.unicode || (c.toNat < 0x80 && !(isByte && c.toNat > 0x7F)) then some c.toNat else none
  | _ => none

def memberSet (flags : Flags) : Escape → Option Ranges
  | .members set => some set
  | other => (memberPoint flags other).map CharSet.single

def memberOrRange : Reader Ranges := do
  let first ← member
  skipSpace
  let next ← peek
  let second ← peekSecond?
  let flags := (← get).flags
  if next != '-' || second == some ']' || second == some '-' then
    match memberSet flags first with
    | some set => return set
    | none => refuse
  else
    bump
    let _ ← peek
    let last ← member
    match memberPoint flags first, memberPoint flags last with
    | some a, some b => if a ≤ b then return [(a, b)] else refuse
    | _, _ => refuse

def operation? : Reader (Option SetOperation) := do
  if ← accept "&&" then return some .intersection
  else if ← accept "--" then return some .difference
  else if ← accept "~~" then return some .symmetricDifference
  else return none

/-- Reads to the end of the outermost of the open brackets; `fuel` bounds the number of steps. -/
def bracketLoop : Nat → OpenSet → List OpenSet → Nat → Reader (Ranges × Nat)
  | 0, _, _, _ => refuse
  | fuel + 1, current, outer, deepest => do
    skipSpace
    let c ← peek
    let s ← get
    if c == '[' then
      match namedClass? s.flags s.rest with
      | some (members, rest) =>
        set { s with rest }
        bracketLoop fuel (current.add members) outer deepest
      | none =>
        let inner ← openBracket
        bracketLoop fuel inner (current :: outer) (max deepest (outer.length + 2))
    else if c == ']' then
      skip 1
      let members := closeSet s.flags current.negated (current.value s.flags)
      match outer with
      | [] => return (members, deepest)
      | enclosing :: outer => bracketLoop fuel (enclosing.add members) outer deepest
    else
      match ← operation? with
      | some operation =>
        let waiting := some (operation, current.value s.flags)
        bracketLoop fuel { current with union := [], waiting } outer deepest
      | none => bracketLoop fuel (current.add (← memberOrRange)) outer deepest

/-- A bracketed set, whose opening bracket is next, with the depth of its nesting. -/
def bracket : Reader (Ranges × Nat) := do
  let first ← openBracket
  let (members, depth) ← bracketLoop ((← get).rest.length + 1) first [] 1
  if (← get).flags.unicode || CharSet.isAscii members then return (members, depth) else refuse

end HttpInspection.Regex.Pattern
