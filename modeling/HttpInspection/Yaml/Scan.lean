import HttpInspection.Yaml.Property
import HttpInspection.Yaml.Scalar

/-!
# Reading tokens

Tokens are read only as far as they are asked for, so that what stands before a malformed place can
still be used.  A key of a block mapping shows itself only by the colon behind it; as long as the
next token may be the start of such a key, reading goes on.
-/

set_option autoImplicit false

namespace HttpInspection.Yaml

namespace Scanner

/-- Skips blanks, comments and line breaks in front of the next token; `fuel` bounds the number of
lines.  In a block, tabs do not count as blanks where a key may begin, and a new line admits a key. -/
def skipToToken : Nat → Scanner → Scanner
  | 0, s => s
  | fuel + 1, s =>
    let cursor := s.cursor
    let cursor :=
      if cursor.column == 0 && cursor.next (· == byteOrderMark) then cursor.skip 1 else cursor
    let cursor := cursor.skipWhile fun c => c == ' ' || ((s.inFlow || !s.keyAllowed) && c == '\t')
    let cursor := cursor.skipComment
    if cursor.next isBreak then
      skipToToken fuel
        { s with cursor := cursor.skipBreak, keyAllowed := s.keyAllowed || !s.inFlow }
    else s.moveTo cursor

/-- A token of some characters at which no key begins; `keyAfter` says whether one may begin behind
them. -/
def takeIndicator (s : Scanner) (token : Token) (width : Nat) (keyAfter : Bool) :
    Option Scanner := do
  let s ← s.dropKey
  some ({ s with keyAllowed := keyAfter, cursor := s.cursor.skip width }.push token)

def takeStreamEnd (s : Scanner) : Option Scanner := do
  let cursor := s.cursor
  let s :=
    if cursor.column = 0 then s else s.moveTo { cursor with column := 0, line := cursor.line + 1 }
  let s ← (s.unrollIndent (-1)).dropKey
  some { s.push .streamEnd with keyAllowed := false, finished := true }

def takeDirective (s : Scanner) : Option Scanner := do
  let s ← (s.unrollIndent (-1)).dropKey
  let (token, cursor) ← readDirective s.cursor
  some { s.push token with cursor, keyAllowed := false }

def takeFlowStart (s : Scanner) (token : Token) : Option Scanner := do
  let s ← s.saveKey
  let s := { s with keys := none :: s.keys, keyAllowed := true, cursor := s.cursor.skip 1 }
  some (s.push token)

def takeFlowEnd (s : Scanner) (token : Token) : Option Scanner := do
  let s ← s.dropKey
  let s := if s.inFlow then { s with keys := s.keys.drop 1 } else s
  some ({ s with keyAllowed := false, cursor := s.cursor.skip 1 }.push token)

/-- Opens a block for an indicator, in a place where one may be opened. -/
def openBlock (s : Scanner) (token : Token) : Option Scanner :=
  if s.inFlow then some s
  else if s.keyAllowed then some (s.rollIndent s.cursor.column none token)
  else none

def takeBlockEntry (s : Scanner) : Option Scanner := do
  (← s.openBlock .blockSequenceStart).takeIndicator .blockEntry 1 true

def takeKey (s : Scanner) : Option Scanner := do
  (← s.openBlock .blockMappingStart).takeIndicator .key 1 (!s.inFlow)

/-- The colon of a value.  If a simple key precedes it, the token of the key is put in front of what
was read since. -/
def takeValue (s : Scanner) : Option Scanner := do
  let s ←
    match s.keys.head?.join with
    | some key =>
      let s := s.insertAt key.tokenNumber .key
      let s := s.rollIndent key.column (some key.tokenNumber) .blockMappingStart
      some { s with keys := none :: s.keys.drop 1, keyAllowed := false }
    | none => do
      let s ← s.openBlock .blockMappingStart
      some { s with keyAllowed := !s.inFlow }
  some ((s.moveTo (s.cursor.skip 1)).push .value)

/-- A token that may begin a simple key. -/
def takeProperty (s : Scanner) (read : Cursor → Option (Token × Cursor)) : Option Scanner := do
  let s ← s.saveKey
  let (token, cursor) ← read s.cursor
  some { s.push token with cursor, keyAllowed := false }

def takeAnchor (s : Scanner) (token : List Char → Token) : Option Scanner :=
  s.takeProperty fun cursor => do
    let (name, cursor) ← readAnchor (cursor.skip 1)
    some (token name, cursor)

def takeQuoted (s : Scanner) (single : Bool) : Option Scanner :=
  s.takeProperty fun cursor => do
    let (read, cursor) ← readQuoted single (cursor.rest.length + 1) [] (cursor.skip 1)
    let style := if single then ScalarStyle.singleQuoted else .doubleQuoted
    some (.scalar style read.reverse, cursor)

def takeBlock (s : Scanner) (isLiteral : Bool) : Option Scanner := do
  let s ← s.dropKey
  let (text, cursor) ← readBlock isLiteral s.indent s.cursor
  let style := if isLiteral then ScalarStyle.literal else .folded
  some { s.push (.scalar style text) with cursor, keyAllowed := true }

/-- A plain scalar.  Behind a line break a key may begin. -/
def takePlain (s : Scanner) : Option Scanner := do
  let s ← s.saveKey
  let (read, broken, cursor) ←
    readPlain s.inFlow (s.indent + 1) (s.cursor.rest.length + 1) [] {} s.cursor
  some { s.push (.scalar .plain read.reverse) with cursor, keyAllowed := broken }

def isIndicator (c : Char) : Bool :=
  "-?:,[]\x7b\x7d#&*!|>'\"%@".toList.contains c || c.toNat == 0x60

def beginsPlain (inFlow : Bool) (c : Char) (after : List Char) : Bool :=
  !(isIndicator c || isBlank c) || (c == '-' && !after.head?.any isBlank) ||
    (!inFlow && (c == '?' || c == ':') && !isBlankOrEnd after)

def takeToken (s : Scanner) (c : Char) (after : List Char) : Option Scanner :=
  let free := isBlankOrEnd after
  if s.cursor.column = 0 ∧ c = '%' then s.takeDirective
  else if s.cursor.column = 0 ∧ s.cursor.hasTriple '-' then
    (s.unrollIndent (-1)).takeIndicator .documentStart 3 false
  else if s.cursor.column = 0 ∧ s.cursor.hasTriple '.' then
    (s.unrollIndent (-1)).takeIndicator .documentEnd 3 false
  else if c = '[' then s.takeFlowStart .flowSequenceStart
  else if c = '\x7b' then s.takeFlowStart .flowMappingStart
  else if c = ']' then s.takeFlowEnd .flowSequenceEnd
  else if c = '\x7d' then s.takeFlowEnd .flowMappingEnd
  else if c = ',' then s.takeIndicator .flowEntry 1 true
  else if c = '-' ∧ free then s.takeBlockEntry
  else if c = '?' ∧ (s.inFlow || free) then s.takeKey
  else if c = ':' ∧ (s.inFlow || free) then s.takeValue
  else if c = '*' then s.takeAnchor .alias
  else if c = '&' then s.takeAnchor .anchor
  else if c = '!' then s.takeProperty (readTag s.inFlow)
  else if c = '|' ∧ ¬ s.inFlow then s.takeBlock true
  else if c = '>' ∧ ¬ s.inFlow then s.takeBlock false
  else if c = '\'' then s.takeQuoted true
  else if c = '"' then s.takeQuoted false
  else if beginsPlain s.inFlow c after then s.takePlain
  else none

/-- Reads the next token, and the tokens of the blocks that it closes or opens. -/
def readToken (s : Scanner) : Option Scanner :=
  if s.started then do
    let s := skipToToken (s.cursor.rest.length + 1) s
    let s ← s.dropStaleKeys
    let s := s.unrollIndent s.cursor.column
    match s.cursor.rest with
    | [] => s.takeStreamEnd
    | c :: after => s.takeToken c after
  else some ({ s with started := true }.push .streamStart)

/-- Reads tokens until the first one cannot be the start of a simple key any more; `fuel` bounds
their number. -/
def readAhead : Nat → Scanner → Option Scanner
  | 0, _ => none
  | fuel + 1, s => do
    if s.tokens.isEmpty then readAhead fuel (← s.readToken)
    else
      let s ← s.dropStaleKeys
      if s.keys.any fun key => key.any fun key => key.tokenNumber == s.taken then
        readAhead fuel (← s.readToken)
      else some s

def peek (s : Scanner) : Option (Token × Scanner) := do
  let s ← s.readAhead (2 * s.cursor.rest.length + 4)
  match s.tokens with
  | token :: _ => some (token, s)
  | [] => none

def drop (s : Scanner) : Scanner :=
  { s with tokens := s.tokens.drop 1, taken := s.taken + 1 }

/-- A scanner at the front of a text, if the text has printable characters only. -/
def ofText (text : List Char) : Option Scanner :=
  if text.all isPrintable then some { cursor := { rest := text } } else none

end Scanner

end HttpInspection.Yaml
