/-!
# Places in a YAML text

The rest of a text with the line and the column at which it begins, and the classes of characters
that the notation distinguishes.
-/

set_option autoImplicit false

namespace HttpInspection.Yaml

/-- The rest of a text and where it begins. -/
structure Cursor where
  rest : List Char
  index : Nat := 0
  line : Nat := 0
  column : Nat := 0

def isBlank (c : Char) : Bool :=
  c == ' ' || c == '\t'

def isBreak (c : Char) : Bool :=
  c == '\n' || c == '\r' || c.toNat == 0x85 || c.toNat == 0x2028 || c.toNat == 0x2029

def isNameCharacter (c : Char) : Bool :=
  c.isAlphanum || c == '-' || c == '_'

def isPrintable (c : Char) : Bool :=
  let n := c.toNat
  n == 9 || n == 10 || n == 13 || (0x20 ≤ n && n ≤ 0x7E) || n == 0x85 ||
    (0xA0 ≤ n && n ≤ 0xFFFD) || 0x10000 ≤ n

def isBreakOrEnd (text : List Char) : Bool :=
  text.head?.all isBreak

def isBlankOrEnd (text : List Char) : Bool :=
  text.head?.all fun c => isBlank c || isBreak c

def byteOrderMark : Char := Char.ofNat 0xFEFF

namespace Cursor

def peek (cursor : Cursor) : Option Char :=
  cursor.rest.head?

def atEnd (cursor : Cursor) : Bool :=
  cursor.rest.isEmpty

def next (cursor : Cursor) (test : Char → Bool) : Bool :=
  cursor.peek.any test

/-- The place behind some characters of the same line. -/
def skip (cursor : Cursor) (count : Nat) : Cursor :=
  { cursor with
    rest := cursor.rest.drop count
    index := cursor.index + count
    column := cursor.column + count }

def span (cursor : Cursor) (test : Char → Bool) : List Char :=
  cursor.rest.takeWhile test

def skipWhile (cursor : Cursor) (test : Char → Bool) : Cursor :=
  cursor.skip (cursor.span test).length

def skipBreak (cursor : Cursor) : Cursor :=
  match cursor.rest with
  | '\r' :: '\n' :: rest =>
    { rest, index := cursor.index + 2, line := cursor.line + 1, column := 0 }
  | _ :: rest => { rest, index := cursor.index + 1, line := cursor.line + 1, column := 0 }
  | [] => cursor

/-- The line break that stands here as it is read: most breaks become a newline. -/
def breakText (cursor : Cursor) : List Char :=
  match cursor.rest with
  | c :: _ =>
    if c = '\r' ∨ c = '\n' ∨ c.toNat = 0x85 then ['\n']
    else if isBreak c then [c]
    else []
  | [] => []

/-- The place behind the rest of the line and, if there is one, its break. -/
def skipOptionalBreak (cursor : Cursor) : Cursor :=
  if cursor.next isBreak then cursor.skipBreak else cursor

def skipComment (cursor : Cursor) : Cursor :=
  if cursor.next (· == '#') then cursor.skipWhile fun c => !isBreak c else cursor

/-- Whether three equal characters stand here, followed by a blank, a break or the end. -/
def hasTriple (cursor : Cursor) (c : Char) : Bool :=
  cursor.rest.take 3 == [c, c, c] && isBlankOrEnd (cursor.rest.drop 3)

/-- Whether a line that separates documents begins here. -/
def atDocumentMark (cursor : Cursor) : Bool :=
  cursor.column == 0 && (cursor.hasTriple '-' || cursor.hasTriple '.')

end Cursor

end HttpInspection.Yaml
