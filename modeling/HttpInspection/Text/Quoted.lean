import HttpInspection.Regex.Property

/-!
# Quoted texts

A text in quotation marks, written so that it shows on one line: quotation marks and backslashes are
escaped, and so is every character that does not print by itself.
-/

set_option autoImplicit false

namespace HttpInspection.Quoted

/-- The characters that print nothing by themselves: controls, formats, unassigned and private
characters, blanks other than the space, and marks that extend the character before them. -/
def unprintable : Ranges :=
  Regex.Property.categories ["cc", "cf", "cs", "co", "cn", "zl", "zp", "zs"] ++
    (Regex.Property.find? Regex.Property.table "graphemeextend").getD []

def isPlain (c : Char) : Bool :=
  if c.toNat < 0x7F then 0x20 ≤ c.toNat else !unprintable.contains c.toNat

def numbered (c : Char) : List Char :=
  ['\\', 'u', '{'] ++ Nat.toDigits 16 c.toNat ++ ['}']

def escape (c : Char) : List Char :=
  if c = '"' then ['\\', '"']
  else if c = '\\' then ['\\', '\\']
  else if c = '\n' then ['\\', 'n']
  else if c = '\r' then ['\\', 'r']
  else if c = '\t' then ['\\', 't']
  else if c.toNat = 0 then ['\\', '0']
  else if isPlain c then [c]
  else numbered c

end HttpInspection.Quoted

namespace HttpInspection

def quoted (s : String) : String :=
  String.ofList ('"' :: s.toList.flatMap Quoted.escape ++ ['"'])

def quotedList (texts : List String) : String :=
  "[" ++ ", ".intercalate (texts.map quoted) ++ "]"

end HttpInspection
