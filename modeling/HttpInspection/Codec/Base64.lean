/-!
# Base64

The standard alphabet with padding.  `decode?` accepts canonical texts only: the length is a
multiple of four, padding stands at the end alone, and the bits that padding makes superfluous are
zero.
-/

set_option autoImplicit false

namespace HttpInspection.Base64

def letter (n : Nat) : UInt8 :=
  if n < 26 then (65 + n).toUInt8
  else if n < 52 then (71 + n).toUInt8
  else if n < 62 then (n - 4).toUInt8
  else if n = 62 then 43
  else 47

def value? (b : UInt8) : Option Nat :=
  let n := b.toNat
  if 65 ≤ n ∧ n ≤ 90 then some (n - 65)
  else if 97 ≤ n ∧ n ≤ 122 then some (n - 71)
  else if 48 ≤ n ∧ n ≤ 57 then some (n + 4)
  else if n = 43 then some 62
  else if n = 47 then some 63
  else none

def padding : UInt8 := 61

def encode : List UInt8 → List UInt8
  | [] => []
  | [a] =>
    let x := a.toNat
    [letter (x / 4), letter (x % 4 * 16), padding, padding]
  | [a, b] =>
    let x := a.toNat
    let y := b.toNat
    [letter (x / 4), letter (x % 4 * 16 + y / 16), letter (y % 16 * 4), padding]
  | a :: b :: c :: rest =>
    let x := a.toNat
    let y := b.toNat
    let z := c.toNat
    letter (x / 4) :: letter (x % 4 * 16 + y / 16) :: letter (y % 16 * 4 + z / 64) ::
      letter (z % 64) :: encode rest

/-- The byte of a group that ends in two padding letters. -/
def decodeOne? (a b : UInt8) : Option (List UInt8) := do
  let x ← value? a
  let y ← value? b
  if y % 16 = 0 then some [(x * 4 + y / 16).toUInt8] else none

/-- The bytes of a group that ends in one padding letter. -/
def decodeTwo? (a b c : UInt8) : Option (List UInt8) := do
  let x ← value? a
  let y ← value? b
  let z ← value? c
  if z % 4 = 0 then some [(x * 4 + y / 16).toUInt8, (y % 16 * 16 + z / 4).toUInt8] else none

/-- The bytes of a group without padding. -/
def decodeThree? (a b c d : UInt8) : Option (List UInt8) := do
  let x ← value? a
  let y ← value? b
  let z ← value? c
  let w ← value? d
  some [(x * 4 + y / 16).toUInt8, (y % 16 * 16 + z / 4).toUInt8, (z % 4 * 64 + w).toUInt8]

/-- The bytes of a canonical text. -/
def decode? : List UInt8 → Option (List UInt8)
  | [] => some []
  | a :: b :: c :: d :: rest =>
    if d = padding then
      if rest.isEmpty then
        if c = padding then decodeOne? a b else decodeTwo? a b c
      else none
    else do
      let front ← decodeThree? a b c d
      let back ← decode? rest
      some (front ++ back)
  | _ => none

def ofString (bytes : List UInt8) : String :=
  String.ofList ((encode bytes).map fun b => Char.ofNat b.toNat)

end HttpInspection.Base64
