import HttpInspection.Regex.Expr
import HttpInspection.Regex.Property
import HttpInspection.Text.Blank

/-!
# Patterns

The written form of regular expressions.  `Pattern.parse?` accepts the patterns that are well formed
and gives the expression that each stands for.

A pattern is read from left to right.  Open groups and open brackets are kept on stacks, so that
every step reads at least one character.
-/

set_option autoImplicit false

namespace HttpInspection.Regex.Pattern

/-- The switches that a pattern can turn on and off. -/
structure Flags where
  ignoreCase : Bool := false
  multiLine : Bool := false
  dotAll : Bool := false
  swapGreed : Bool := false
  crlf : Bool := false
  extended : Bool := false
  unicode : Bool := true

/-- What is left of a pattern, the switches in force, and the names of the groups so far. -/
structure State where
  rest : List Char
  flags : Flags := {}
  names : List (List Char) := []

/-- A reader of patterns; it fails on a pattern that is not well formed. -/
abbrev Reader := StateT State Option

def refuse {α : Type} : Reader α := fun _ => none

def peek? : Reader (Option Char) := do
  return (← get).rest.head?

def peek : Reader Char := do
  match ← peek? with
  | some c => pure c
  | none => refuse

def looksAt (text : String) : Reader Bool := do
  return text.toList.isPrefixOf (← get).rest

def skip (count : Nat) : Reader Unit :=
  modify fun s => { s with rest := s.rest.drop count }

def accept (text : String) : Reader Bool := do
  if ← looksAt text then
    skip text.length
    return true
  else return false

def dropSpace : Bool → List Char → List Char
  | _, [] => []
  | true, c :: rest => dropSpace (c != '\n') rest
  | false, c :: rest =>
    if isBlank c then dropSpace false rest
    else if c == '#' then dropSpace true rest
    else c :: rest

/-- Passes over blanks and comments where the switches make them insignificant. -/
def skipSpace : Reader Unit :=
  modify fun s => if s.flags.extended then { s with rest := dropSpace false s.rest } else s

/-- Passes over one character and the insignificant space after it. -/
def bump : Reader Unit := do
  skip 1
  skipSpace

/-- The character after the next one, space aside. -/
def peekSecond? : Reader (Option Char) := do
  let s ← get
  let rest := s.rest.drop 1
  return (if s.flags.extended then dropSpace false rest else rest).head?

def hexValue? (c : Char) : Option Nat :=
  if '0' ≤ c ∧ c ≤ '9' then some (c.toNat - 48)
  else if 'a' ≤ c ∧ c ≤ 'f' then some (c.toNat - 87)
  else if 'A' ≤ c ∧ c ≤ 'F' then some (c.toNat - 55)
  else none

def scalar (n : Nat) : Reader Char :=
  if n.isValidChar then pure (Char.ofNat n) else refuse

def hexDigits : Nat → Nat → Reader Nat
  | 0, value => pure value
  | count + 1, value => do
    match hexValue? (← peek) with
    | none => refuse
    | some digit =>
      bump
      hexDigits count (value * 16 + digit)

/-- The characters up to a closing brace; `fuel` bounds their number. -/
def upToBrace : Nat → Reader (List Char)
  | 0 => refuse
  | fuel + 1 => do
    let c ← peek
    if c == '}' then return []
    else
      bump
      return c :: (← upToBrace fuel)

/-- The characters between an opening brace, which is next, and the closing one, which stays. -/
def inBraces : Reader (List Char) := do
  bump
  upToBrace ((← get).rest.length + 1)

/-- A character written with hexadecimal digits; the letter before them is next. -/
def hexEscape (digits : Nat) : Reader Char := do
  bump
  if (← peek) == '{' then
    let written ← inBraces
    bump
    if written.isEmpty then refuse
    else
      match written.mapM hexValue? with
      | none => refuse
      | some values => scalar (values.foldl (fun n d => min (n * 16 + d) 0x110000) 0)
  else scalar (← hexDigits digits 0)

def cutAt? (mark : List Char) : List Char → Option (List Char × List Char)
  | [] => none
  | c :: rest =>
    if mark.isPrefixOf (c :: rest) then some ([], (c :: rest).drop mark.length)
    else (cutAt? mark rest).map fun (front, back) => (c :: front, back)

/-- The property that stands in braces, and whether it is denied there. -/
def bracedProperty? (written : List Char) : Option (Ranges × Bool) :=
  match cutAt? "!=".toList written with
  | some (name, value) => (Property.valued? name value).map (·, true)
  | none =>
    match cutAt? ":".toList written with
    | some (name, value) => (Property.valued? name value).map (·, false)
    | none =>
      match cutAt? "=".toList written with
      | some (name, value) => (Property.valued? name value).map (·, false)
      | none => (Property.named? written).map (·, false)

inductive Escape where
  | literal (c : Char) (isByte : Bool)
  | members (set : Ranges)
  | look (condition : Look)

/-- A set with what the switches add to it and without what a denial takes away. -/
def closeSet (flags : Flags) (negated : Bool) (set : Ranges) : Ranges :=
  let folded :=
    if flags.ignoreCase then
      if flags.unicode then CharSet.foldCase set else CharSet.foldAsciiCase set
    else set
  if negated then CharSet.complement folded else folded

/-- A named property; the letter that introduces it is next. -/
def propertyEscape : Reader Escape := do
  let denied := (← peek) == 'P'
  bump
  let found ←
    if (← peek) == '{' then
      let written ← inBraces
      skip 1
      pure (bracedProperty? written)
    else
      let c ← peek
      if c == '\\' then refuse
      else
        bump
        pure ((Property.named? [c]).map (·, false))
  match found with
  | none => refuse
  | some (set, alsoDenied) =>
    let flags := (← get).flags
    if flags.unicode then return .members (closeSet flags (denied != alsoDenied) set) else refuse

def asciiWord : Ranges := [(48, 57), (65, 90), (95, 95), (97, 122)]

def abbreviated (unicode : Bool) (letter : Char) : Ranges :=
  let set :=
    match letter.toLower with
    | 'd' => if unicode then Property.digits else [(48, 57)]
    | 's' => if unicode then Property.blanks else [(9, 13), (32, 32)]
    | _ => if unicode then Property.wordCharacters else asciiWord
  if letter.isUpper then CharSet.complement set else set

def isMeta (c : Char) : Bool :=
  "\\.+*?()|[]\x7b\x7d^$#&-~".toList.contains c

/-- The characters that may be escaped though they have no meaning. -/
def isSuperfluous (c : Char) : Bool :=
  c.toNat < 0x80 && !c.isAlphanum && c != '<' && c != '>'

/-- The letters and dashes of the name of a word edge; `fuel` bounds their number. -/
def edgeName : Nat → Reader (List Char)
  | 0 => refuse
  | fuel + 1 => do
    match ← peek? with
    | some c =>
      if c.isAlpha || c == '-' then
        bump
        return c :: (← edgeName fuel)
      else return []
    | none => return []

/-- The edge named in braces after a word boundary, if what stands in the braces is a name. -/
def namedEdge? : Reader (Option WordEdge) := do
  let before ← get
  bump
  let c ← peek
  if c.isAlpha || c == '-' then
    let name ← edgeName ((← get).rest.length + 1)
    if (← peek?) == some '}' then
      skip 1
      match String.ofList name with
      | "start" => return some .start
      | "end" => return some .finish
      | "start-half" => return some .startHalf
      | "end-half" => return some .finishHalf
      | _ => refuse
    else refuse
  else
    set before
    return none

/-- An escape; the backslash is next. -/
def escape : Reader Escape := do
  skip 1
  let c ← peek
  let unicode := (← get).flags.unicode
  if c.isDigit then refuse
  else if c == 'x' then
    let isByte := (← get).rest.drop 1 |>.head? |> (· != some '\x7b')
    return .literal (← hexEscape 2) isByte
  else if c == 'u' then return .literal (← hexEscape 4) false
  else if c == 'U' then return .literal (← hexEscape 8) false
  else if c == 'p' || c == 'P' then propertyEscape
  else if "dswDSW".toList.contains c then
    skip 1
    return .members (abbreviated unicode c)
  else
    skip 1
    if isMeta c || isSuperfluous c then return .literal c false
    else
      match c with
      | 'a' => return .literal (Char.ofNat 7) false
      | 'f' => return .literal (Char.ofNat 12) false
      | 't' => return .literal '\t' false
      | 'n' => return .literal '\n' false
      | 'r' => return .literal '\r' false
      | 'v' => return .literal (Char.ofNat 11) false
      | 'A' => return .look .textStart
      | 'z' => return .look .textEnd
      | 'B' => return .look (.word .interior unicode)
      | '<' => return .look (.word .start unicode)
      | '>' => return .look (.word .finish unicode)
      | 'b' =>
        if (← peek?) == some '\x7b' then
          match ← namedEdge? with
          | some edge => return .look (.word edge unicode)
          | none => return .look (.word .boundary unicode)
        else return .look (.word .boundary unicode)
      | _ => refuse

end HttpInspection.Regex.Pattern
