import HttpInspection.Text.CaseTable

/-!
# Lower case

The full lower-case form of a text.  One letter has a form of two scalars, and a capital sigma that
ends a word has a form of its own; every other character is mapped alone.
-/

set_option autoImplicit false

namespace HttpInspection.Lowercase

def isAsciiCapital (c : Char) : Bool :=
  'A' ≤ c && c ≤ 'Z'

def asciiChar (c : Char) : Char :=
  if isAsciiCapital c then Char.ofNat (c.toNat + 32) else c

def ascii (text : List Char) : List Char :=
  text.map asciiChar

/-- The lower-case form of a character that does not depend on its neighbours. -/
def char (c : Char) : List Char :=
  if c.toNat < 0x80 then [asciiChar c]
  else if c.toNat = 0x130 then ['i', Char.ofNat 0x307]
  else [((CaseTable.image? CaseTable.lowerRows c.toNat).map Char.ofNat).getD c]

/-- Whether the nearest character that is not ignorable has case. -/
def nextIsCased : List Char → Bool
  | [] => false
  | c :: rest =>
    if CaseTable.caseIgnorable.contains c.toNat then nextIsCased rest
    else CaseTable.cased.contains c.toNat

/-- A capital sigma ends a word when a cased character precedes it and none follows. -/
def endsWord (before after : List Char) : Bool :=
  nextIsCased before && !nextIsCased after

/-- The lower-case form of the rest of a text; `before` is what precedes it, nearest first. -/
def lowerAfter (before : List Char) : List Char → List Char
  | [] => []
  | c :: rest =>
    let lowered :=
      if c.toNat = 0x3A3 then
        [Char.ofNat (if endsWord before rest then 0x3C2 else 0x3C3)]
      else char c
    lowered ++ lowerAfter (c :: before) rest

def text (cs : List Char) : List Char :=
  lowerAfter [] cs

end HttpInspection.Lowercase

namespace HttpInspection

def lowercase (s : String) : String :=
  String.ofList (Lowercase.text s.toList)

def asciiLowercase (s : String) : String :=
  String.ofList (Lowercase.ascii s.toList)

def equalIgnoringAsciiCase (a b : String) : Bool :=
  Lowercase.ascii a.toList == Lowercase.ascii b.toList

end HttpInspection
