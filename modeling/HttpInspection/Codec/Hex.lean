/-!
# Hexadecimal digits

The value of a digit in either case, and the lower-case text of bytes.
-/

set_option autoImplicit false

namespace HttpInspection.Hex

def value? (b : UInt8) : Option UInt8 :=
  if 0x30 ≤ b && b ≤ 0x39 then some (b - 0x30)
  else if 0x61 ≤ b && b ≤ 0x66 then some (b - 0x61 + 10)
  else if 0x41 ≤ b && b ≤ 0x46 then some (b - 0x41 + 10)
  else none

/-- The lower-case digit of a value below sixteen. -/
def digit (n : Nat) : Char :=
  if n < 10 then Char.ofNat (48 + n) else Char.ofNat (87 + n)

def ofByte (b : UInt8) : List Char :=
  [digit (b.toNat / 16), digit (b.toNat % 16)]

def ofBytes (bytes : List UInt8) : String :=
  String.ofList (bytes.flatMap ofByte)

end HttpInspection.Hex
