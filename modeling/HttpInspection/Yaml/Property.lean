import HttpInspection.Codec.Hex
import HttpInspection.Text.Utf8
import HttpInspection.Yaml.Token

/-!
# Directives, anchors and tags

The readers of what goes before documents and nodes.  Each gives a token and the place behind it, or
nothing if the text is malformed.
-/

set_option autoImplicit false

namespace HttpInspection.Yaml

def endsAnchor (text : List Char) : Bool :=
  isBlankOrEnd text || text.head?.any fun c => "?:,]\x7d%@".toList.contains c || c.toNat == 0x60

def readAnchor (cursor : Cursor) : Option (List Char × Cursor) :=
  let name := cursor.span isNameCharacter
  let after := cursor.skip name.length
  if name.isEmpty || !endsAnchor after.rest then none else some (name, after)

def readHandle (inDirective : Bool) (cursor : Cursor) : Option (List Char × Cursor) :=
  match cursor.rest with
  | '!' :: rest =>
    let name := rest.takeWhile isNameCharacter
    let after := cursor.skip (1 + name.length)
    if after.next (· == '!') then some ('!' :: name ++ ['!'], after.skip 1)
    else if inDirective && !name.isEmpty then none
    else some ('!' :: name, after)
  | _ => none

/-- Whether a character may stand in the address of a tag; `full` admits the characters that end a
tag in a flow collection. -/
def isAddressCharacter (full : Bool) (c : Char) : Bool :=
  isNameCharacter c || ";/?:@&=+$.%!~*'()".toList.contains c ||
    (full && (c == ',' || c == '[' || c == ']'))

def readEscapedByte : List Char → Option (UInt8 × List Char)
  | '%' :: a :: b :: rest => do
    let digit (c : Char) : Option UInt8 :=
      if c.toNat < 0x80 then Hex.value? c.toNat.toUInt8 else none
    some ((← digit a) * 16 + (← digit b), rest)
  | _ => none

/-- The bytes that the leading byte of a character announces after itself. -/
def bytesAfter (b : UInt8) : Option Nat :=
  if b < 0x80 then some 0
  else if b &&& 0xE0 = 0xC0 then some 1
  else if b &&& 0xF0 = 0xE0 then some 2
  else if b &&& 0xF8 = 0xF0 then some 3
  else none

def readContinuation : Nat → List Char → Option (List UInt8 × List Char)
  | 0, text => some ([], text)
  | count + 1, text => do
    let (b, text) ← readEscapedByte text
    if b &&& 0xC0 = 0x80 then
      let (bytes, text) ← readContinuation count text
      some (b :: bytes, text)
    else none

def readEscapes (text : List Char) : Option (List Char × List Char) := do
  let (b, rest) ← readEscapedByte text
  let (bytes, rest) ← readContinuation (← bytesAfter b) rest
  some (Utf8.decodeLossy (b :: bytes), rest)

/-- The characters of an address and the rest of the text; `fuel` bounds their number. -/
def readAddress (full : Bool) : Nat → List Char → Option (List Char × List Char)
  | 0, text => some ([], text)
  | fuel + 1, text =>
    match text with
    | [] => some ([], [])
    | c :: rest =>
      if c = '%' then do
        let (cs, rest) ← readEscapes (c :: rest)
        let (more, rest) ← readAddress full fuel rest
        some (cs ++ more, rest)
      else if isAddressCharacter full c then do
        let (more, rest) ← readAddress full fuel rest
        some (c :: more, rest)
      else some ([], c :: rest)

/-- An address from here on, behind a head that was read before; both together are not empty. -/
def readUri (full : Bool) (head : List Char) (cursor : Cursor) : Option (List Char × Cursor) := do
  let (address, rest) ← readAddress full cursor.rest.length cursor.rest
  if head.isEmpty && address.isEmpty then none
  else some (head.drop 1 ++ address, cursor.skip (cursor.rest.length - rest.length))

def readTag (inFlow : Bool) (cursor : Cursor) : Option (Token × Cursor) := do
  let (token, after) ←
    if cursor.rest.take 2 = ['!', '<'] then do
      let (suffix, after) ← readUri true [] (cursor.skip 2)
      if after.next (· == '>') then some (Token.tag [] suffix, after.skip 1) else none
    else do
      let (handle, after) ← readHandle false cursor
      if 1 < handle.length && handle.getLast? == some '!' then do
        let (suffix, after) ← readUri false [] after
        some (Token.tag handle suffix, after)
      else do
        let (suffix, after) ← readUri false handle after
        some (if suffix.isEmpty then Token.tag [] ['!'] else Token.tag ['!'] suffix, after)
  if (inFlow && after.next (· == ',')) || isBlankOrEnd after.rest then some (token, after) else none

def versionDigitLimit : Nat := 9

def readVersionNumber (cursor : Cursor) : Option (Nat × Cursor) :=
  let digits := cursor.span Char.isDigit
  if digits.isEmpty || versionDigitLimit < digits.length then none
  else some (digits.foldl (fun n c => n * 10 + (c.toNat - 48)) 0, cursor.skip digits.length)

def readVersion (cursor : Cursor) : Option (Token × Cursor) := do
  let (major, cursor) ← readVersionNumber (cursor.skipWhile isBlank)
  if cursor.next (· == '.') then do
    let (minor, cursor) ← readVersionNumber (cursor.skip 1)
    some (.versionDirective major minor, cursor)
  else none

def readTagDirective (cursor : Cursor) : Option (Token × Cursor) := do
  let (handle, cursor) ← readHandle true (cursor.skipWhile isBlank)
  if cursor.next isBlank then do
    let (uri, cursor) ← readUri true [] (cursor.skipWhile isBlank)
    if isBlankOrEnd cursor.rest then some (.tagDirective handle uri, cursor) else none
  else none

/-- A directive, from its percent sign to the end of its line. -/
def readDirective (cursor : Cursor) : Option (Token × Cursor) := do
  let cursor := cursor.skip 1
  let name := cursor.span isNameCharacter
  let cursor := cursor.skip name.length
  if name.isEmpty || !isBlankOrEnd cursor.rest then none
  else do
    let (token, cursor) ←
      if name = "YAML".toList then readVersion cursor
      else if name = "TAG".toList then readTagDirective cursor
      else none
    let cursor := (cursor.skipWhile isBlank).skipComment
    if isBreakOrEnd cursor.rest then some (token, cursor.skipOptionalBreak) else none

end HttpInspection.Yaml
