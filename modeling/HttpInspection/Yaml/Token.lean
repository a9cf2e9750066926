import HttpInspection.Yaml.Cursor

/-!
# Tokens of YAML

The tokens of a text, and what is known while they are read: the open indentations, the open flow
collections, and the places at which a simple key may have begun.
-/

set_option autoImplicit false

namespace HttpInspection.Yaml

inductive ScalarStyle where
  | plain
  | singleQuoted
  | doubleQuoted
  | literal
  | folded
  deriving Repr, DecidableEq

inductive Token where
  | streamStart
  | streamEnd
  | versionDirective (major minor : Nat)
  | tagDirective (handle uri : List Char)
  | documentStart
  | documentEnd
  | blockSequenceStart
  | blockMappingStart
  | blockEnd
  | flowSequenceStart
  | flowSequenceEnd
  | flowMappingStart
  | flowMappingEnd
  | blockEntry
  | flowEntry
  | key
  | value
  | alias (name : List Char)
  | anchor (name : List Char)
  | tag (handle suffix : List Char)
  | scalar (style : ScalarStyle) (text : List Char)
  deriving Repr, DecidableEq

/-- A place at which a simple key may have begun: the number of its token, where it stands, and
whether it has to be a key. -/
structure SimpleKey where
  tokenNumber : Nat
  index : Nat
  line : Nat
  column : Nat
  required : Bool

structure Scanner where
  cursor : Cursor
  /-- The tokens that are read but not yet taken. -/
  tokens : List Token := []
  taken : Nat := 0
  /-- The column of the innermost block, -1 outside of all blocks. -/
  indent : Int := -1
  outerIndents : List Int := []
  keyAllowed : Bool := true
  /-- The possible simple keys, one place for each open flow collection and one for the blocks. -/
  keys : List (Option SimpleKey) := [none]
  started : Bool := false
  finished : Bool := false

/-- The greatest number of characters between the ends of a simple key. -/
def simpleKeyLimit : Nat := 1024

namespace Scanner

def inFlow (s : Scanner) : Bool :=
  1 < s.keys.length

def moveTo (s : Scanner) (cursor : Cursor) : Scanner :=
  { s with cursor }

def push (s : Scanner) (token : Token) : Scanner :=
  { s with tokens := s.tokens ++ [token] }

def insertAt (s : Scanner) (number : Nat) (token : Token) : Scanner :=
  let before := number - s.taken
  { s with tokens := s.tokens.take before ++ token :: s.tokens.drop before }

/-- Forgets the simple keys that can no longer be keys: a key ends in its line, after a limited
number of characters.  A key that has to be there must not be forgotten. -/
def dropStaleKeys (s : Scanner) : Option Scanner := do
  let stale (key : SimpleKey) : Bool :=
    key.line < s.cursor.line || key.index + simpleKeyLimit < s.cursor.index
  if s.keys.any fun key => key.any fun key => stale key && key.required then none
  else some { s with keys := s.keys.map fun key => key.filter fun key => !stale key }

def dropKey (s : Scanner) : Option Scanner :=
  match s.keys with
  | [] => some s
  | key :: outer =>
    if key.any SimpleKey.required then none else some { s with keys := none :: outer }

def saveKey (s : Scanner) : Option Scanner :=
  if s.keyAllowed then do
    let key : SimpleKey :=
      { tokenNumber := s.taken + s.tokens.length
        index := s.cursor.index
        line := s.cursor.line
        column := s.cursor.column
        required := !s.inFlow && s.indent == s.cursor.column }
    let s ← s.dropKey
    some { s with keys := some key :: s.keys.drop 1 }
  else some s

/-- Opens a block at a column, if it is deeper than the innermost one; the token of its start comes
last or in front of the token of a number. -/
def rollIndent (s : Scanner) (column : Nat) (number : Option Nat) (token : Token) : Scanner :=
  if s.inFlow || (column : Int) ≤ s.indent then s
  else
    let s := { s with indent := column, outerIndents := s.indent :: s.outerIndents }
    match number with
    | some number => s.insertAt number token
    | none => s.push token

/-- Closes the blocks that are deeper than a column, innermost first. -/
def closeBlocks (column : Int) : List Int → Int → List Token → Int × List Int × List Token
  | [], indent, tokens => (indent, [], tokens)
  | outer :: rest, indent, tokens =>
    if column < indent then closeBlocks column rest outer (tokens ++ [.blockEnd])
    else (indent, outer :: rest, tokens)

def unrollIndent (s : Scanner) (column : Int) : Scanner :=
  if s.inFlow then s
  else
    let (indent, outerIndents, tokens) := closeBlocks column s.outerIndents s.indent s.tokens
    { s with indent, outerIndents, tokens }

end Scanner

end HttpInspection.Yaml
