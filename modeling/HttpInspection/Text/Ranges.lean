/-!
# Ranges of code points

Character properties are given as closed ranges of code points, written in hexadecimal:
a range is `41-5a`, a single code point `b5`, and spaces or line ends stand between them.
-/

set_option autoImplicit false

namespace HttpInspection

/-- Closed ranges of code points. -/
abbrev Ranges := List (Nat × Nat)

namespace Ranges

def contains (ranges : Ranges) (n : Nat) : Bool :=
  ranges.any fun range => range.1 ≤ n && n ≤ range.2

def digit (c : Char) : Nat :=
  if '0' ≤ c ∧ c ≤ '9' then c.toNat - 48
  else if 'a' ≤ c ∧ c ≤ 'f' then c.toNat - 87
  else 0

/-- The ranges written in a text. `first` is the start of a range whose dash has been read, `value`
the digits read since. -/
def readHex : List Char → Option Nat → Option Nat → Ranges
  | [], first, value => close first value
  | ' ' :: rest, first, value => close first value ++ readHex rest none none
  | '\n' :: rest, first, value => close first value ++ readHex rest none none
  | '-' :: rest, _, value => readHex rest value none
  | c :: rest, first, value => readHex rest first (some (value.getD 0 * 16 + digit c))
where
  close (first value : Option Nat) : Ranges :=
    match value with
    | none => []
    | some last => [(first.getD last, last)]

def ofHex (text : String) : Ranges :=
  readHex text.toList none none

end Ranges

end HttpInspection
