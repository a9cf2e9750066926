import HttpInspection.Decimal.Double
import HttpInspection.Text.Split
import HttpInspection.Toml.Value

/-!
# Scalars of TOML documents

Truth values, numbers, dates and times.  Each is a word without spaces, except that one space may
stand between a date and a time.
-/

set_option autoImplicit false

namespace HttpInspection.Toml

/-- The digits of a number without the underscores between them; every underscore stands between two
digits. -/
def digits? (isDigit : Char → Bool) (word : List Char) : Option (List Char) :=
  let groups := splitAtEvery (· == '_') word
  if groups.all fun group => !group.isEmpty && group.all isDigit then some groups.flatten else none

def valueInBase (base : Nat) (digits : List Char) : Nat :=
  digits.foldl (fun n c =>
    n * base + (if c.isDigit then c.toNat - 48 else c.toLower.toNat - 87)) 0

def isDigitOf (base : Nat) (c : Char) : Bool :=
  if c.isDigit then c.toNat - 48 < base
  else base == 16 && 'a' ≤ c.toLower && c.toLower ≤ 'f'

def integerValue? (n : Int) : Option Value :=
  if -(Nat.pow 2 63 : Int) ≤ n ∧ n < (Nat.pow 2 63 : Int) then some (.integer n) else none

def basedInteger? (base : Nat) (word : List Char) : Option Value := do
  let digits ← digits? (isDigitOf base) word
  integerValue? (valueInBase base digits)

/-- Whether a word has a sign at its front, whether it is a minus, and the word without it. -/
def splitSign : List Char → Bool × List Char
  | '+' :: rest => (false, rest)
  | '-' :: rest => (true, rest)
  | word => (false, word)

/-- The digits of a whole decimal number: no superfluous zero at its front. -/
def wholeDigits? (word : List Char) : Option (List Char) := do
  let digits ← digits? Char.isDigit word
  match digits with
  | '0' :: _ :: _ => none
  | digits => some digits

def decimalInteger? (word : List Char) : Option Value := do
  let (negative, word) := splitSign word
  let n : Int := Decimal.ofDigits (← wholeDigits? word)
  integerValue? (if negative then -n else n)

def integer? (word : List Char) : Option Value :=
  match word with
  | '0' :: 'x' :: digits => basedInteger? 16 digits
  | '0' :: 'o' :: digits => basedInteger? 8 digits
  | '0' :: 'b' :: digits => basedInteger? 2 digits
  | word => decimalInteger? word

def exponent? (word : List Char) : Option Int := do
  let (negative, word) := splitSign word
  let n : Int := Decimal.ofDigits (← digits? Char.isDigit word)
  some (if negative then -n else n)

def isSpecialFloat (word : List Char) : Bool :=
  let (_, word) := splitSign word
  word == ['i', 'n', 'f'] || word == ['n', 'a', 'n']

/-- The digits of the whole part of a number, the digits of its fraction and its exponent; it has a
fraction or an exponent. -/
def floatParts? (word : List Char) : Option (List Char × List Char × Int) := do
  let (mantissa, exponent) ←
    match cutAtFirst (fun c => c == 'e' || c == 'E') word with
    | some (mantissa, tail) => (exponent? tail).map fun n => (mantissa, some n)
    | none => some (word, none)
  match cutAtFirst (· == '.') mantissa with
  | some (whole, fraction) =>
    some (← wholeDigits? whole, ← digits? Char.isDigit fraction, exponent.getD 0)
  | none => some (← wholeDigits? mantissa, [], ← exponent)

/-- A number with a fraction or an exponent.  A positive one has to be in the range of double
precision. -/
def float? (word : List Char) : Option Value := do
  if isSpecialFloat word then some .float
  else
    let (negative, word) := splitSign word
    let (whole, fraction, exponent) ← floatParts? word
    if negative || Decimal.inDoubleRange (Decimal.ofDigits (whole ++ fraction))
        (exponent - fraction.length) then some .float
    else none

/-! ## Dates and times -/

def fixedDigits? (count : Nat) (word : List Char) : Option Nat :=
  if word.length = count ∧ word.all Char.isDigit then some (Decimal.ofDigits word) else none

def daysOfMonth (year month : Nat) : Nat :=
  if month = 2 then
    if year % 4 = 0 ∧ (year % 100 ≠ 0 ∨ year % 400 = 0) then 29 else 28
  else if month = 4 ∨ month = 6 ∨ month = 9 ∨ month = 11 then 30
  else 31

def isDate (word : List Char) : Bool :=
  match splitAtEvery (· == '-') word with
  | [year, month, day] =>
    match fixedDigits? 4 year, fixedDigits? 2 month, fixedDigits? 2 day with
    | some year, some month, some day =>
      1 ≤ month && month ≤ 12 && 1 ≤ day && day ≤ daysOfMonth year month
    | _, _, _ => false
  | _ => false

def isUpTo (greatest : Nat) (word : List Char) : Bool :=
  (fixedDigits? 2 word).any (· ≤ greatest)

/-- Whether a word is a number of seconds, with or without a fraction.  A minute may have a leap
second. -/
def isSeconds (word : List Char) : Bool :=
  match cutAtFirst (· == '.') word with
  | some (seconds, fraction) => isUpTo 60 seconds && !fraction.isEmpty && fraction.all Char.isDigit
  | none => isUpTo 60 word

def isTime (word : List Char) : Bool :=
  match splitAtEvery (· == ':') word with
  | [hour, minute, seconds] => isUpTo 23 hour && isUpTo 59 minute && isSeconds seconds
  | _ => false

/-- Whether a word is the distance of a local time from universal time. -/
def isOffset (word : List Char) : Bool :=
  match splitAtEvery (· == ':') word with
  | [hour, minute] => isUpTo 23 hour && isUpTo 59 minute
  | _ => false

def isTimeOfZone (word : List Char) : Bool :=
  match cutAtFirst (fun c => c == 'Z' || c == 'z' || c == '+' || c == '-') word with
  | some (time, offset) =>
    let mark := (word.drop time.length).head?
    isTime time &&
      (if mark = some '+' ∨ mark = some '-' then isOffset offset else offset.isEmpty)
  | none => isTime word

def dateWidth : Nat := 10

/-- Whether a word is a date, a time, or both with a letter or a space between them. -/
def isMoment (word : List Char) : Bool :=
  isTime word || isDate word ||
    (isDate (word.take dateWidth) &&
      match word.drop dateWidth with
      | c :: time => (c == 'T' || c == 't' || c == ' ') && isTimeOfZone time
      | [] => false)

/-! ## Words -/

def isWordChar (c : Char) : Bool :=
  c.isAlphanum || c == '_' || c == '+' || c == '-' || c == '.' || c == ':'

/-- The word at the front of a text.  A date with a digit behind one space is one word with what
follows. -/
def readWord (text : List Char) : List Char × List Char :=
  let word := text.takeWhile isWordChar
  let rest := text.dropWhile isWordChar
  match rest with
  | ' ' :: c :: tail =>
    if isDate word && c.isDigit then
      (word ++ ' ' :: (c :: tail).takeWhile isWordChar, (c :: tail).dropWhile isWordChar)
    else (word, rest)
  | _ => (word, rest)

def wordValue? (word : List Char) : Option Value :=
  if word = "true".toList then some (.bool true)
  else if word = "false".toList then some (.bool false)
  else if isMoment word then some .time
  else (integer? word).or (float? word)

end HttpInspection.Toml
