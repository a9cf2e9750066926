import HttpInspection.Codec.Hex

/-!
# Text of TOML documents

Spaces, comments and line ends, and the four forms of strings.  Readers take the characters that
are left and give what they have read with the characters behind it.
-/

set_option autoImplicit false

namespace HttpInspection.Toml

def isSpace (c : Char) : Bool :=
  c == ' ' || c == '\t'

/-- Whether a character may stand in comments and strings: no control except the tab. -/
def isPlain (c : Char) : Bool :=
  c == '\t' || (0x20 ≤ c.toNat && c.toNat != 0x7F)

def skipSpaces (text : List Char) : List Char :=
  text.dropWhile isSpace

/-- What follows a line end: a line feed, with or without a carriage return in front of it. -/
def newline? : List Char → Option (List Char)
  | '\n' :: rest => some rest
  | '\r' :: '\n' :: rest => some rest
  | _ => none

def skipComment : List Char → List Char
  | '#' :: rest => rest.dropWhile isPlain
  | text => text

/-- What follows the end of a line on which nothing is left but spaces and a comment. -/
def endLine? (text : List Char) : Option (List Char) :=
  match skipComment (skipSpaces text) with
  | [] => some []
  | text => newline? text

/-- A text without the spaces, comments and line ends at its front; `fuel` bounds the number of
lines. -/
def skipLines : Nat → List Char → List Char
  | 0, text => text
  | fuel + 1, text =>
    match skipSpaces text with
    | '#' :: rest =>
      match endLine? ('#' :: rest) with
      | some rest => skipLines fuel rest
      | none => '#' :: rest
    | text =>
      match newline? text with
      | some rest => skipLines fuel rest
      | none => text

/-! ## Strings -/

def hexDigit? (c : Char) : Option Nat :=
  if c.toNat < 0x80 then (Hex.value? c.toNat.toUInt8).map UInt8.toNat else none

def readHexDigits (count : Nat) (text : List Char) : Option (Nat × List Char) := do
  let digits ← (text.take count).mapM hexDigit?
  if digits.length = count then
    some (digits.foldl (fun n digit => n * 16 + digit) 0, text.drop count)
  else none

def scalar? (n : Nat) : Option Char :=
  if n.isValidChar then some (Char.ofNat n) else none

def letterEscape? (c : Char) : Option Char :=
  match c with
  | 'b' => some (Char.ofNat 8)
  | 'f' => some (Char.ofNat 12)
  | 'n' => some '\n'
  | 'r' => some '\r'
  | 't' => some '\t'
  | '"' => some '"'
  | '\\' => some '\\'
  | _ => none

def readEscape (text : List Char) : Option (Char × List Char) :=
  match text with
  | 'u' :: rest => do
    let (n, rest) ← readHexDigits 4 rest
    some (← scalar? n, rest)
  | 'U' :: rest => do
    let (n, rest) ← readHexDigits 8 rest
    some (← scalar? n, rest)
  | c :: rest => (letterEscape? c).map (·, rest)
  | [] => none

/-- What follows a backslash at the end of a line: the text from its next character that is neither
a space nor a line end. -/
def continuation? (fuel : Nat) (text : List Char) : Option (List Char) :=
  (newline? (skipSpaces text)).map (skipBlanks fuel)
where
  skipBlanks : Nat → List Char → List Char
    | 0, text => text
    | fuel + 1, text =>
      let text := skipSpaces text
      match newline? text with
      | some rest => skipBlanks fuel rest
      | none => text

/-- A string on one line up to its closing mark; `escapes` tells whether backslashes begin escapes.
`fuel` bounds the number of characters. -/
def readLine (mark : Char) (escapes : Bool) : Nat → List Char → Option (List Char × List Char)
  | 0, _ => none
  | _ + 1, [] => none
  | fuel + 1, c :: rest =>
    if c = mark then some ([], rest)
    else if escapes && c == '\\' then do
      let (c, rest) ← readEscape rest
      let (text, rest) ← readLine mark escapes fuel rest
      some (c :: text, rest)
    else if isPlain c then do
      let (text, rest) ← readLine mark escapes fuel rest
      some (c :: text, rest)
    else none

def closingMarks : Nat := 3

/-- A string on several lines up to its closing marks.  One or two marks may stand within it, also
right in front of the closing ones.  `fuel` bounds the number of characters. -/
def readLines (mark : Char) (escapes : Bool) : Nat → List Char → Option (List Char × List Char)
  | 0, _ => none
  | _ + 1, [] => none
  | fuel + 1, c :: rest =>
    if c = mark then
      let marks := (c :: rest).takeWhile (· == mark)
      let rest := (c :: rest).dropWhile (· == mark)
      if marks.length < closingMarks then do
        let (text, rest) ← readLines mark escapes fuel rest
        some (marks ++ text, rest)
      else if marks.length < 2 * closingMarks then some (marks.drop closingMarks, rest)
      else none
    else if escapes && c == '\\' then
      match continuation? fuel rest with
      | some rest => readLines mark escapes fuel rest
      | none => do
        let (c, rest) ← readEscape rest
        let (text, rest) ← readLines mark escapes fuel rest
        some (c :: text, rest)
    else
      match newline? (c :: rest) with
      | some rest => do
        let (text, rest) ← readLines mark escapes fuel rest
        some ('\n' :: text, rest)
      | none =>
        if isPlain c then do
          let (text, rest) ← readLines mark escapes fuel rest
          some (c :: text, rest)
        else none

def marksEscapes (mark : Char) : Bool :=
  mark == '"'

def readShortString (mark : Char) (text : List Char) : Option (String × List Char) :=
  (readLine mark (marksEscapes mark) (text.length + 1) text).map fun (text, rest) =>
    (String.ofList text, rest)

/-- A string behind its first mark, on one line or on several lines.  A line end right behind three
opening marks does not belong to the string. -/
def readString (mark : Char) (text : List Char) : Option (String × List Char) :=
  match text with
  | a :: b :: rest =>
    if a = mark ∧ b = mark then
      let rest := (newline? rest).getD rest
      (readLines mark (marksEscapes mark) (rest.length + 1) rest).map fun (text, rest) =>
        (String.ofList text, rest)
    else readShortString mark text
  | text => readShortString mark text

/-! ## Keys -/

def isBareKey (c : Char) : Bool :=
  c.isAlphanum || c == '_' || c == '-'

def readKeyPart (text : List Char) : Option (String × List Char) :=
  match text with
  | '"' :: rest => readShortString '"' rest
  | '\'' :: rest => readShortString '\'' rest
  | text =>
    let name := text.takeWhile isBareKey
    if name.isEmpty then none else some (String.ofList name, text.dropWhile isBareKey)

def keyLimit : Nat := 80

/-- A key with dots between its parts: all parts but the last one, and the last one.  `fuel` bounds
the number of parts. -/
def readParts : Nat → List Char → Option (List String × String × List Char)
  | 0, _ => none
  | fuel + 1, text => do
    let (part, rest) ← readKeyPart (skipSpaces text)
    match skipSpaces rest with
    | '.' :: rest =>
      let (path, last, rest) ← readParts fuel rest
      some (part :: path, last, rest)
    | rest => some ([], part, rest)

def readKey (text : List Char) : Option (List String × String × List Char) :=
  readParts (keyLimit - 1) text

end HttpInspection.Toml
