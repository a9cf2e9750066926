/-!
# The range of double precision

Decimal numbers as an integer and a power of ten, and whether they are in the range of floating-point
numbers of double precision.
-/

set_option autoImplicit false

namespace HttpInspection.Decimal

/-- Numbers from here on exceed the range: they are nearer to the next power of two than to the
greatest number. -/
def doubleBound : Nat := Nat.pow 2 1024 - Nat.pow 2 970

/-- Powers of ten above this one are out of range. -/
def exponentBound : Int := 400

def inDoubleRange (value : Nat) (exponent : Int) : Bool :=
  if value = 0 then true
  else if exponentBound < exponent then false
  else if 0 ≤ exponent then value * Nat.pow 10 exponent.toNat < doubleBound
  else value < doubleBound || value / Nat.pow 10 (-exponent).toNat < doubleBound

def ofDigits (digits : List Char) : Nat :=
  digits.foldl (fun n c => n * 10 + (c.toNat - 48)) 0

end HttpInspection.Decimal
