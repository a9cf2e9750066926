import HttpInspection.Codec.Hex

/-!
# JSON values

Values and their compact text.  A number is kept as it is written.  What has been read of an
incomplete text is a value, too: the container that was open is marked as not closed.
-/

set_option autoImplicit false

namespace HttpInspection

/-- A JSON value, or what is readable of one. -/
inductive Json where
  | null
  | bool (value : Bool)
  | number (lexeme : List Char)
  /-- A string; nothing if it denotes no text because a surrogate stands alone. -/
  | string (value : Option String)
  | array (items : List Json) (closed : Bool)
  | object (entries : List (String × Json)) (closed : Bool)
  /-- No value begins here. -/
  | unreadable

namespace Json

def ofString (s : String) : Json :=
  string (some s)

def ofInt (n : Int) : Json :=
  number (toString n).toList

def ofList (items : List Json) : Json :=
  array items true

def ofEntries (entries : List (String × Json)) : Json :=
  object entries true

/-- The form of a character between quotation marks: quotation marks, backslashes and the controls
below the space are escaped. -/
def escape (c : Char) : List Char :=
  if c = '"' then ['\\', '"']
  else if c = '\\' then ['\\', '\\']
  else if 0x20 ≤ c.toNat then [c]
  else if c = '\n' then ['\\', 'n']
  else if c = '\r' then ['\\', 'r']
  else if c = '\t' then ['\\', 't']
  else if c.toNat = 8 then ['\\', 'b']
  else if c.toNat = 12 then ['\\', 'f']
  else ['\\', 'u', '0', '0'] ++ Hex.ofByte c.toNat.toUInt8

def quote (s : String) : List Char :=
  '"' :: s.toList.flatMap escape ++ ['"']

mutual

def write : Json → List Char
  | null => "null".toList
  | bool true => "true".toList
  | bool false => "false".toList
  | number lexeme => lexeme
  | string value => quote (value.getD "")
  | array items _ => '[' :: writeItems items
  | object entries _ => '{' :: writeEntries entries
  | unreadable => []

def writeItems : List Json → List Char
  | [] => [']']
  | [item] => item.write ++ [']']
  | item :: rest => item.write ++ ',' :: writeItems rest

def writeEntries : List (String × Json) → List Char
  | [] => ['}']
  | [(key, value)] => quote key ++ ':' :: (value.write ++ ['}'])
  | (key, value) :: rest => quote key ++ ':' :: (value.write ++ ',' :: writeEntries rest)

end

def compact (value : Json) : String :=
  String.ofList value.write

mutual

/-- Whether a value was read to its end. -/
def isWhole : Json → Bool
  | array items closed => closed && allWhole items
  | object entries closed => closed && allWholeEntries entries
  | unreadable => false
  | _ => true

def allWhole : List Json → Bool
  | [] => true
  | item :: rest => item.isWhole && allWhole rest

def allWholeEntries : List (String × Json) → Bool
  | [] => true
  | (_, value) :: rest => value.isWhole && allWholeEntries rest

end

end Json

end HttpInspection
