/-!
# Decimal places

Numbers with a fixed count of decimal places.  The exact value is rounded to the nearest decimal,
and a tie goes to the even neighbour.
-/

set_option autoImplicit false

namespace HttpInspection.Decimal

/-- The nearest integer to a quotient; of two nearest ones the even one. -/
def roundDiv (numerator denominator : Nat) : Nat :=
  let quotient := numerator / denominator
  let twice := 2 * (numerator % denominator)
  if denominator < twice || (twice == denominator && quotient % 2 == 1) then quotient + 1
  else quotient

/-- A number of units with a point in front of the last `places` digits. -/
def pointed (places units : Nat) : String :=
  let digits := (Nat.toDigits 10 units)
  let padded := List.replicate (places + 1 - digits.length) '0' ++ digits
  let whole := padded.take (padded.length - places)
  let fraction := padded.drop (padded.length - places)
  String.ofList (if places = 0 then whole else whole ++ '.' :: fraction)

def ofQuotient (places numerator denominator : Nat) : String :=
  pointed places (roundDiv (numerator * Nat.pow 10 places) denominator)

/-- The exact value of a finite number that is not negative, as a quotient. -/
def quotientOf (x : Float) : Nat × Nat :=
  let bits := x.toBits.toNat
  let fraction := bits % Nat.pow 2 52
  let exponent := bits / Nat.pow 2 52 % Nat.pow 2 11
  if exponent = 0 then (fraction, Nat.pow 2 1074)
  else if 1075 ≤ exponent then ((Nat.pow 2 52 + fraction) * Nat.pow 2 (exponent - 1075), 1)
  else (Nat.pow 2 52 + fraction, Nat.pow 2 (1075 - exponent))

def fixed (places : Nat) (x : Float) : String :=
  let (numerator, denominator) := quotientOf x
  ofQuotient places numerator denominator

end HttpInspection.Decimal
