import HttpInspection.Yaml.Token

/-!
# Scalars of YAML

The readers of plain, quoted and block scalars.  Line breaks inside a scalar are folded: a single one
becomes a space, of several the first is dropped.  Each reader gives the text of the scalar and the
place behind it, or nothing if the scalar is malformed.
-/

set_option autoImplicit false

namespace HttpInspection.Yaml

/-- The white space between two lines of a scalar: the blanks of a line that is not broken, or the
first break and the breaks after it. -/
structure Gap where
  blanks : List Char := []
  broken : Bool := false
  firstBreak : List Char := []
  moreBreaks : List Char := []

def Gap.folded (gap : Gap) : List Char :=
  if !gap.broken then gap.blanks
  else if gap.firstBreak = ['\n'] then
    if gap.moreBreaks.isEmpty then [' '] else gap.moreBreaks
  else gap.firstBreak ++ gap.moreBreaks

/-- Reads the white space here.  A tab in front of column `indent` of a new line is an error; `fuel`
bounds the number of characters. -/
def readGap (indent : Int) : Nat → Gap → Cursor → Option (Gap × Cursor)
  | 0, gap, cursor => some (gap, cursor)
  | fuel + 1, gap, cursor =>
    match cursor.rest with
    | [] => some (gap, cursor)
    | c :: _ =>
      if isBlank c then
        if gap.broken then
          if cursor.column < indent ∧ c = '\t' then none
          else readGap indent fuel gap (cursor.skip 1)
        else readGap indent fuel { gap with blanks := gap.blanks ++ [c] } (cursor.skip 1)
      else if isBreak c then
        if gap.broken then
          readGap indent fuel { gap with moreBreaks := gap.moreBreaks ++ cursor.breakText }
            cursor.skipBreak
        else
          readGap indent fuel { gap with blanks := [], broken := true, firstBreak := cursor.breakText }
            cursor.skipBreak
      else some (gap, cursor)

def Cursor.readGap (cursor : Cursor) (indent : Int) (gap : Gap) : Option (Gap × Cursor) :=
  Yaml.readGap indent (cursor.rest.length + 1) gap cursor

/-! ## Plain scalars -/

def endsPlain (inFlow : Bool) (c : Char) (after : List Char) : Bool :=
  (c == ':' && isBlankOrEnd after) || (inFlow && ",[]\x7b\x7d".toList.contains c)

def isMisplacedColon (inFlow : Bool) (c : Char) (after : List Char) : Bool :=
  inFlow && c == ':' && after.head?.any fun d => ",?[]\x7b\x7d".toList.contains d

/-- The characters of a plain scalar up to white space or its end, newest first in front of those
that were read before. -/
def readPlainWord (inFlow : Bool) : List Char → List Char → Option (List Char × Nat)
  | read, [] => some (read, 0)
  | read, c :: rest =>
    if isBlank c || isBreak c then some (read, 0)
    else if isMisplacedColon inFlow c rest then none
    else if endsPlain inFlow c rest then some (read, 0)
    else (readPlainWord inFlow (c :: read) rest).map fun (read, count) => (read, count + 1)

/-- A plain scalar from here on: its text, newest character first, the place behind it and the white
space that follows it, and whether a line break is in that space. -/
def readPlain (inFlow : Bool) (indent : Int) :
    Nat → List Char → Gap → Cursor → Option (List Char × Bool × Cursor)
  | 0, _, _, _ => none
  | fuel + 1, read, gap, cursor =>
    if cursor.atDocumentMark || cursor.next (· == '#') then some (read, gap.broken, cursor)
    else do
      let (word, count) ← readPlainWord inFlow [] cursor.rest
      let (read, gap) := if count = 0 then (read, gap) else (word ++ gap.folded.reverse ++ read, {})
      let cursor := cursor.skip count
      if cursor.next fun c => isBlank c || isBreak c then
        let (gap, cursor) ← cursor.readGap indent gap
        if !inFlow && cursor.column < indent then some (read, gap.broken, cursor)
        else readPlain inFlow indent fuel read gap cursor
      else some (read, gap.broken, cursor)

/-! ## Quoted scalars -/

def letterEscapes : List (Char × Nat) :=
  [('0', 0), ('a', 7), ('b', 8), ('t', 9), ('\t', 9), ('n', 10), ('v', 11), ('f', 12), ('r', 13),
   ('e', 0x1B), (' ', 0x20), ('"', 0x22), ('/', 0x2F), ('\\', 0x5C), ('N', 0x85), ('_', 0xA0),
   ('L', 0x2028), ('P', 0x2029)]

def digitEscapes : List (Char × Nat) :=
  [('x', 2), ('u', 4), ('U', 8)]

def hexDigit? (c : Char) : Option Nat :=
  if '0' ≤ c ∧ c ≤ '9' then some (c.toNat - 48)
  else if 'a' ≤ c ∧ c ≤ 'f' then some (c.toNat - 87)
  else if 'A' ≤ c ∧ c ≤ 'F' then some (c.toNat - 55)
  else none

def hexValue? (digits : List Char) : Option Nat :=
  digits.foldlM (fun n c => (hexDigit? c).map fun d => n * 16 + d) 0

/-- The character of an escape and the number of characters behind the backslash. -/
def readEscape : List Char → Option (Char × Nat)
  | [] => none
  | letter :: rest =>
    match letterEscapes.lookup letter with
    | some value => some (Char.ofNat value, 1)
    | none => do
      let count ← digitEscapes.lookup letter
      let digits := rest.take count
      if digits.length < count then none
      else do
        let value ← hexValue? digits
        if value.isValidChar then some (Char.ofNat value, 1 + count) else none

/-- A quoted scalar behind its opening mark: its text, newest character first, and the place behind
its closing mark.  An escaped line break joins two lines without a space. -/
def readQuoted (single : Bool) : Nat → List Char → Cursor → Option (List Char × Cursor)
  | 0, _, _ => none
  | fuel + 1, read, cursor =>
    let mark := if single then '\'' else '"'
    match cursor.rest with
    | [] => none
    | c :: rest =>
      if cursor.atDocumentMark then none
      else if isBlank c || isBreak c then do
        let (gap, cursor) ← cursor.readGap 0 {}
        readQuoted single fuel (gap.folded.reverse ++ read) cursor
      else if c = mark then
        if single && rest.head? == some '\'' then
          readQuoted single fuel ('\'' :: read) (cursor.skip 2)
        else some (read, cursor.skip 1)
      else if !single && c == '\\' then
        if rest.head?.any isBreak then do
          let (gap, cursor) ← (cursor.skip 1).skipBreak.readGap 0 { broken := true }
          readQuoted single fuel (gap.folded.reverse ++ read) cursor
        else do
          let (escaped, count) ← readEscape rest
          readQuoted single fuel (escaped :: read) (cursor.skip (1 + count))
      else readQuoted single fuel (c :: read) (cursor.skip 1)

/-! ## Block scalars -/

/-- What becomes of the line breaks at the end of a block scalar. -/
inductive Chomping where
  | strip
  | clip
  | keep
  deriving Repr, DecidableEq

def chomping? (c : Char) : Option Chomping :=
  if c = '+' then some .keep else if c = '-' then some .strip else none

/-- The chomping and the indentation that the head of a block scalar states, in either order, and the
number of their characters.  An indentation of zero is malformed. -/
def readBlockHead (text : List Char) : Option (Chomping × Option Nat × Nat) :=
  let digit? (c : Char) : Option Nat := if c.isDigit then some (c.toNat - 48) else none
  match text.head?.bind chomping?, text.head?.bind digit? with
  | some chomping, _ =>
    match (text.drop 1).head?.bind digit? with
    | some 0 => none
    | some indent => some (chomping, some indent, 2)
    | none => some (chomping, none, 1)
  | none, some 0 => none
  | none, some indent =>
    match (text.drop 1).head?.bind chomping? with
    | some chomping => some (chomping, some indent, 2)
    | none => some (.clip, some indent, 1)
  | none, none => some (.clip, none, 0)

/-- The empty lines of a block scalar, and how deep the deepest of them and the next line are
indented.  The indentation may be unknown. -/
def readEmptyLines (indent : Option Nat) :
    Nat → Nat → List Char → Cursor → Option (List Char × Nat × Cursor)
  | 0, deepest, breaks, cursor => some (breaks, deepest, cursor)
  | fuel + 1, deepest, breaks, cursor =>
    let spaces := cursor.span (· == ' ')
    let count :=
      match indent with
      | some indent => min spaces.length (indent - cursor.column)
      | none => spaces.length
    let cursor := cursor.skip count
    let deepest := max deepest cursor.column
    if (indent.all fun indent => cursor.column < indent) && cursor.next (· == '\t') then none
    else if cursor.next isBreak then
      readEmptyLines indent fuel deepest (breaks ++ cursor.breakText) cursor.skipBreak
    else some (breaks, deepest, cursor)

/-- The state between two lines of a block scalar: the text, newest character first, the break of the
last line, the empty lines after it, and whether the last line begins with a blank. -/
structure BlockText where
  read : List Char := []
  lastBreak : List Char := []
  emptyLines : List Char := []
  blankStart : Bool := false

/-- The text with the breaks in front of a line that may begin with a blank. -/
def BlockText.joined (text : BlockText) (isLiteral blankNext : Bool) : List Char :=
  let breaks :=
    if !isLiteral && text.lastBreak == ['\n'] && !text.blankStart && !blankNext then
      if text.emptyLines.isEmpty then [' '] else text.emptyLines
    else text.lastBreak ++ text.emptyLines
  breaks.reverse ++ text.read

def readBlockLines (isLiteral : Bool) (indent : Nat) :
    Nat → BlockText → Cursor → Option (BlockText × Cursor)
  | 0, text, cursor => some (text, cursor)
  | fuel + 1, text, cursor =>
    if cursor.column = indent ∧ ¬ cursor.atEnd then do
      let blank := cursor.next isBlank
      let line := cursor.span fun c => !isBreak c
      let read := line.reverse ++ text.joined isLiteral blank
      let cursor := cursor.skip line.length
      let lastBreak := cursor.breakText
      let cursor := cursor.skipOptionalBreak
      let (emptyLines, _, cursor) ←
        readEmptyLines (some indent) (cursor.rest.length + 1) 0 [] cursor
      readBlockLines isLiteral indent fuel { read, lastBreak, emptyLines, blankStart := blank } cursor
    else some (text, cursor)

/-- The text of a block scalar with the breaks at its end that chomping leaves. -/
def BlockText.finished (text : BlockText) : Chomping → List Char
  | .strip => text.read.reverse
  | .clip => text.read.reverse ++ text.lastBreak
  | .keep => text.read.reverse ++ text.lastBreak ++ text.emptyLines

/-- A block scalar from its indicator on, within a block at column `outer`. -/
def readBlock (isLiteral : Bool) (outer : Int) (cursor : Cursor) : Option (List Char × Cursor) := do
  let cursor := cursor.skip 1
  let (chomping, increment, count) ← readBlockHead cursor.rest
  let cursor := ((cursor.skip count).skipWhile isBlank).skipComment
  if !isBreakOrEnd cursor.rest then none
  else do
    let cursor := cursor.skipOptionalBreak
    let base := outer.toNat
    let known := increment.map (base + ·)
    let (emptyLines, deepest, cursor) ← readEmptyLines known (cursor.rest.length + 1) 0 [] cursor
    let indent := known.getD (max (max deepest (outer + 1).toNat) 1)
    let (text, cursor) ←
      readBlockLines isLiteral indent (cursor.rest.length + 1) { emptyLines } cursor
    some (text.finished chomping, cursor)

end HttpInspection.Yaml
