import HttpInspection.Json.Value

/-!
# Reading JSON

A text is read as far as it is well formed, so that a decoder can judge what stands before the place
where the form is broken.
-/

set_option autoImplicit false

namespace HttpInspection.Json

def isSpace (c : Char) : Bool :=
  c == ' ' || c == '\n' || c == '\t' || c == '\r'

def skipSpaces (text : List Char) : List Char :=
  text.dropWhile isSpace

def spanDigits (text : List Char) : List Char × List Char :=
  (text.takeWhile Char.isDigit, text.dropWhile Char.isDigit)

/-- The integer part of a number: no superfluous zero at its front. -/
def readWhole (text : List Char) : Option (List Char × List Char) :=
  match text with
  | '0' :: c :: rest => if c.isDigit then none else some (['0'], c :: rest)
  | text =>
    let (digits, rest) := spanDigits text
    if digits.isEmpty then none else some (digits, rest)

def readFraction (text : List Char) : Option (List Char × List Char) :=
  match text with
  | '.' :: rest =>
    let (digits, rest) := spanDigits rest
    if digits.isEmpty then none else some ('.' :: digits, rest)
  | text => some ([], text)

def readExponent (text : List Char) : Option (List Char × List Char) :=
  match text with
  | c :: rest =>
    if c = 'e' ∨ c = 'E' then
      let (sign, rest) :=
        match rest with
        | s :: after => if s = '+' ∨ s = '-' then ([s], after) else ([], s :: after)
        | [] => ([], [])
      let (digits, rest) := spanDigits rest
      if digits.isEmpty then none else some (c :: sign ++ digits, rest)
    else some ([], c :: rest)
  | [] => some ([], [])

def readNumber (text : List Char) : Option (List Char × List Char) := do
  let (sign, rest) :=
    match text with
    | '-' :: rest => (['-'], rest)
    | text => ([], text)
  let (whole, rest) ← readWhole rest
  let (fraction, rest) ← readFraction rest
  let (exponent, rest) ← readExponent rest
  some (sign ++ whole ++ fraction ++ exponent, rest)

def readUnit : List Char → Option (Nat × List Char)
  | a :: b :: c :: d :: rest => do
    let digit (c : Char) : Option Nat :=
      if c.toNat < 0x80 then (Hex.value? c.toNat.toUInt8).map UInt8.toNat else none
    some ((((← digit a) * 16 + (← digit b)) * 16 + (← digit c)) * 16 + (← digit d), rest)
  | _ => none

def letterEscape? (c : Char) : Option Char :=
  match c with
  | '"' => some '"'
  | '\\' => some '\\'
  | '/' => some '/'
  | 'b' => some (Char.ofNat 8)
  | 'f' => some (Char.ofNat 12)
  | 'n' => some '\n'
  | 'r' => some '\r'
  | 't' => some '\t'
  | _ => none

/-- Whether a unit is the first half of a pair of surrogates. -/
def isLeading (unit : Nat) : Bool :=
  0xD800 ≤ unit && unit < 0xDC00

/-- Whether a unit is the second half of a pair of surrogates. -/
def isTrailing (unit : Nat) : Bool :=
  0xDC00 ≤ unit && unit < 0xE000

/-- The characters of a string from its units; nothing if a surrogate stands alone. -/
def joinUnits : List (Char ⊕ Nat) → Option (List Char)
  | [] => some []
  | .inl c :: rest => (joinUnits rest).map (c :: ·)
  | .inr unit :: rest =>
    if isLeading unit then
      match rest with
      | .inr next :: rest =>
        if isTrailing next then
          (joinUnits rest).map
            (Char.ofNat (0x10000 + (unit - 0xD800) * 0x400 + (next - 0xDC00)) :: ·)
        else none
      | _ => none
    else if isTrailing unit then none
    else (joinUnits rest).map (Char.ofNat unit :: ·)

/-- The characters and the escaped units of a string up to its closing quotation mark; `fuel` bounds
their number. -/
def readUnits : Nat → List Char → Option (List (Char ⊕ Nat) × List Char)
  | 0, _ => none
  | _ + 1, [] => none
  | fuel + 1, c :: rest =>
    if c = '"' then some ([], rest)
    else if c.toNat < 0x20 then none
    else if c = '\\' then
      match rest with
      | 'u' :: digits => do
        let (unit, rest) ← readUnit digits
        let (units, rest) ← readUnits fuel rest
        some (.inr unit :: units, rest)
      | letter :: rest => do
        let c ← letterEscape? letter
        let (units, rest) ← readUnits fuel rest
        some (.inl c :: units, rest)
      | [] => none
    else do
      let (units, rest) ← readUnits fuel rest
      some (.inl c :: units, rest)

def readString (text : List Char) : Option (Option String × List Char) :=
  (readUnits (text.length + 1) text).map fun (units, rest) =>
    ((joinUnits units).map String.ofList, rest)

def readWord (word : String) (value : Json) (text : List Char) : Json × List Char :=
  if text.take word.length = word.toList then (value, text.drop word.length)
  else (unreadable, text)

mutual

/-- The value at the front of a text and what follows it; `fuel` bounds the number of steps. -/
def readValue : Nat → List Char → Json × List Char
  | 0, text => (unreadable, text)
  | fuel + 1, text =>
    match skipSpaces text with
    | [] => (unreadable, [])
    | '[' :: rest =>
      match skipSpaces rest with
      | ']' :: rest => (ofList [], rest)
      | rest =>
        let (items, closed, rest) := readItems fuel rest
        (array items closed, rest)
    | '{' :: rest =>
      match skipSpaces rest with
      | '}' :: rest => (ofEntries [], rest)
      | rest =>
        let (entries, closed, rest) := readEntries fuel rest
        (object entries closed, rest)
    | '"' :: rest =>
      match readString rest with
      | some (value, rest) => (string value, rest)
      | none => (unreadable, rest)
    | 't' :: rest => readWord "true" (bool true) ('t' :: rest)
    | 'f' :: rest => readWord "false" (bool false) ('f' :: rest)
    | 'n' :: rest => readWord "null" null ('n' :: rest)
    | c :: rest =>
      match readNumber (c :: rest) with
      | some (lexeme, rest) => (number lexeme, rest)
      | none => (unreadable, c :: rest)

def readItems : Nat → List Char → List Json × Bool × List Char
  | 0, text => ([], false, text)
  | fuel + 1, text =>
    let (item, rest) := readValue fuel text
    if item.isWhole then
      match skipSpaces rest with
      | ']' :: rest => ([item], true, rest)
      | ',' :: rest =>
        let (items, closed, rest) := readItems fuel rest
        (item :: items, closed, rest)
      | rest => ([item], false, rest)
    else ([item], false, rest)

def readEntries : Nat → List Char → List (String × Json) × Bool × List Char
  | 0, text => ([], false, text)
  | fuel + 1, text =>
    match skipSpaces text with
    | '"' :: rest =>
      match readString rest with
      | some (some key, rest) =>
        match skipSpaces rest with
        | ':' :: rest =>
          let (value, rest) := readValue fuel rest
          if value.isWhole then
            match skipSpaces rest with
            | '}' :: rest => ([(key, value)], true, rest)
            | ',' :: rest =>
              let (entries, closed, rest) := readEntries fuel rest
              ((key, value) :: entries, closed, rest)
            | rest => ([(key, value)], false, rest)
          else ([(key, value)], false, rest)
        | rest => ([(key, unreadable)], false, rest)
      | _ => ([], false, rest)
    | rest => ([], false, rest)

end

/-- The value that a text begins with, and whether nothing follows it. -/
def read (text : String) : Json × Bool :=
  let (value, rest) := readValue (text.length + 1) text.toList
  (value, (skipSpaces rest).isEmpty)

end HttpInspection.Json
