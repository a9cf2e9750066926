import HttpInspection.Regex.Bracket

/-!
# Reading patterns

The stack of open groups, the operators that apply to what precedes them, and the reader of whole
patterns.
-/

set_option autoImplicit false

namespace HttpInspection.Regex.Pattern

/-- A piece of a sequence: its expression, the depth of its nesting, and whether it can be
repeated. -/
structure Piece where
  expr : Expr
  depth : Nat := 0
  repeatable : Bool := true

/-- An open group: the alternatives before the current one, the pieces of the current one, both
newest first, whether the group is capturing, and the switches to restore at its end. -/
structure OpenGroup where
  alternatives : List Piece := []
  pieces : List Piece := []
  capturing : Bool := false
  outerFlags : Flags := {}

def depthLimit : Nat := 250

/-- Several pieces as one, nested one deeper unless there is a single one. -/
def combine (operation : Expr → Expr → Expr) (pieces : List Piece) : Piece :=
  match pieces with
  | [] => { expr := .empty }
  | [piece] => { piece with repeatable := true }
  | last :: before =>
    { expr := before.foldl (fun expr piece => operation piece.expr expr) last.expr
      depth := 1 + pieces.foldl (fun depth piece => max depth piece.depth) 0 }

def OpenGroup.sequence (group : OpenGroup) : Piece :=
  combine .cat group.pieces

def OpenGroup.contents (group : OpenGroup) : Piece :=
  combine .alt (group.sequence :: group.alternatives)

def OpenGroup.add (group : OpenGroup) (piece : Piece) : OpenGroup :=
  { group with pieces := piece :: group.pieces }

def literal (flags : Flags) (c : Char) : Expr :=
  let n := c.toNat
  if flags.ignoreCase then
    if flags.unicode then .set (CharSet.caseVariants n)
    else .set (CharSet.foldAsciiCase (CharSet.single n))
  else .set (CharSet.single n)

def escaped (flags : Flags) : Escape → Option Expr
  | .literal c isByte =>
    if !flags.unicode && isByte && c.toNat > 0x7F then none else some (literal flags c)
  | .members set => if flags.unicode || CharSet.isAscii set then some (.set set) else none
  | .look condition => some (.look condition)

def dot (flags : Flags) : Option Expr :=
  if !flags.unicode then none
  else if flags.dotAll then some (.set [(0, CharSet.maximum)])
  else if flags.crlf then some (.set (CharSet.complement [(10, 10), (13, 13)]))
  else some (.set (CharSet.complement [(10, 10)]))

/-- The switches named between a question mark and the end of the switches. -/
def switchLoop : Nat → Flags → Bool → List Char → Reader Flags
  | 0, _, _, _ => refuse
  | fuel + 1, flags, negated, seen => do
    let c ← peek
    if c == ':' || c == ')' then
      if seen.head? == some '-' then refuse else return flags
    else if seen.contains c then refuse
    else
      let on := !negated
      let flags? : Option Flags := match c with
        | 'i' => some { flags with ignoreCase := on }
        | 'm' => some { flags with multiLine := on }
        | 's' => some { flags with dotAll := on }
        | 'U' => some { flags with swapGreed := on }
        | 'u' => some { flags with unicode := on }
        | 'R' => some { flags with crlf := on }
        | 'x' => some { flags with extended := on }
        | '-' => some flags
        | _ => none
      match flags? with
      | none => refuse
      | some flags =>
        skip 1
        switchLoop fuel flags (negated || c == '-') (c :: seen)

def isNameCharacter (first : Bool) (c : Char) : Bool :=
  let letter := c == '_' || Property.alphabetic.contains c.toNat
  if first then letter
  else letter || "[].".toList.contains c || (Property.categories ["nd", "nl", "no"]).contains c.toNat

def groupName : Reader Unit := do
  let s ← get
  let name := s.rest.takeWhile (· != '>')
  let rest := s.rest.drop name.length
  let wellFormed := match name with
    | [] => false
    | first :: others => isNameCharacter true first && others.all (isNameCharacter false)
  if rest.isEmpty || !wellFormed || s.names.contains name then refuse
  else set { s with rest := rest.drop 1, names := name :: s.names }

/-- The start of a group, whose parenthesis is next: switches for the rest of the enclosing group, or
a new group. -/
def openGroup : Reader (Option OpenGroup) := do
  let outerFlags := (← get).flags
  bump
  if (← accept "?=") || (← accept "?!") || (← accept "?<=") || (← accept "?<!") then refuse
  else if (← accept "?P<") || (← accept "?<") then
    groupName
    return some { capturing := true, outerFlags }
  else if ← accept "?" then
    let _ ← peek
    let before := (← get).rest
    let flags ← switchLoop (before.length + 1) outerFlags false []
    let isEmpty := (← get).rest.length == before.length
    let c ← peek
    skip 1
    if c == ')' then
      if isEmpty then refuse
      else
        modify fun s => { s with flags }
        return none
    else
      modify fun s => { s with flags }
      return some { outerFlags }
  else return some { capturing := true, outerFlags }

/-- The digits of a number, space between them aside. -/
def decimalDigits : Nat → Reader (List Char)
  | 0 => refuse
  | fuel + 1 => do
    match ← peek? with
    | some c =>
      if '0' ≤ c && c ≤ '9' then
        bump
        return c :: (← decimalDigits fuel)
      else return []
    | none => return []

/-- A number of at most thirty-two bits, or none where no digit stands. -/
def decimal : Reader (Option Nat) := do
  modify fun s => { s with rest := s.rest.dropWhile isBlank }
  let digits ← decimalDigits ((← get).rest.length + 1)
  modify fun s => { s with rest := s.rest.dropWhile isBlank }
  if digits.isEmpty then return none
  else
    let value := digits.foldl (fun n c => n * 10 + (c.toNat - 48)) 0
    if value < Nat.pow 2 32 then return some value else refuse

def bounds : Reader (Nat × Option Nat) := do
  bump
  let _ ← peek
  let min ← decimal
  let c ← peek
  let range ←
    if c == ',' then
      bump
      if (← peek) == '}' then pure (min.map (·, none))
      else
        let max ← decimal
        pure (do return (← min, some (← max)))
    else pure (min.map fun n => (n, some n))
  if (← peek) != '}' then refuse
  else
    bump
    match range with
    | some (min, some max) => if min ≤ max then return (min, some max) else refuse
    | some (min, none) => return (min, none)
    | none => refuse

/-- A group whose last piece is repeated; a question mark that follows reverses the greed. -/
def repeated (group : OpenGroup) (min : Nat) (max : Option Nat) : Reader OpenGroup := do
  let greedy := !(← accept "?")
  let swap := (← get).flags.swapGreed
  match group.pieces with
  | piece :: before =>
    if piece.repeatable then
      let expr := .repeat min max (greedy != swap) piece.expr
      return { group with pieces := { expr, depth := piece.depth + 1 } :: before }
    else refuse
  | [] => refuse

/-- Reads to the end of a pattern; `fuel` bounds the number of steps. -/
def patternLoop : Nat → OpenGroup → List OpenGroup → Reader Piece
  | 0, _, _ => refuse
  | fuel + 1, group, outer => do
    skipSpace
    let flags := (← get).flags
    match ← peek? with
    | none => if outer.isEmpty then return group.contents else refuse
    | some c =>
      let push (expr? : Option Expr) : Reader Piece :=
        match expr? with
        | some expr => patternLoop fuel (group.add { expr }) outer
        | none => refuse
      match c with
      | '(' =>
        match ← openGroup with
        | some inner => patternLoop fuel inner (group :: outer)
        | none => patternLoop fuel (group.add { expr := .empty, repeatable := false }) outer
      | ')' =>
        skip 1
        modify fun s => { s with flags := group.outerFlags }
        match outer with
        | [] => refuse
        | enclosing :: outer =>
          let contents := group.contents
          let expr := if group.capturing then .group contents.expr else contents.expr
          patternLoop fuel (enclosing.add { expr, depth := contents.depth + 1 }) outer
      | '|' =>
        skip 1
        let alternatives := group.sequence :: group.alternatives
        patternLoop fuel { group with alternatives, pieces := [] } outer
      | '[' =>
        let (members, depth) ← bracket
        patternLoop fuel (group.add { expr := .set members, depth }) outer
      | '?' =>
        skip 1
        patternLoop fuel (← repeated group 0 (some 1)) outer
      | '*' =>
        skip 1
        patternLoop fuel (← repeated group 0 none) outer
      | '+' =>
        skip 1
        patternLoop fuel (← repeated group 1 none) outer
      | '\x7b' =>
        let (min, max) ← bounds
        patternLoop fuel (← repeated group min max) outer
      | '\\' => push (escaped flags (← escape))
      | '.' =>
        skip 1
        push (dot flags)
      | '^' =>
        skip 1
        push (some (.look (if flags.multiLine then .lineStart flags.crlf else .textStart)))
      | '$' =>
        skip 1
        push (some (.look (if flags.multiLine then .lineEnd flags.crlf else .textEnd)))
      | c =>
        skip 1
        push (some (literal flags c))

/-- The expression of a pattern that is well formed, not nested too deeply and not too heavy. -/
def parse? (pattern : List Char) : Option Expr := do
  let (piece, _) ← (patternLoop (pattern.length + 1) {} []).run { rest := pattern }
  if piece.depth ≤ depthLimit && piece.expr.weight ≤ Expr.weightLimit then some piece.expr else none

end HttpInspection.Regex.Pattern
