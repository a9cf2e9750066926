import HttpInspection.Decimal.Double
import HttpInspection.Yaml.Node

/-!
# What plain scalars denote

A plain scalar without a tag denotes nothing, a truth value or a number if it has the form of one,
and its text otherwise.  Numbers of more than sixty-four bits are not representable.
-/

set_option autoImplicit false

namespace HttpInspection.Yaml

/-- What a scalar denotes, as far as it matters for a text: the text, nothing, some other value, or a
value that cannot be represented. -/
inductive ScalarKind where
  | text
  | null
  | other
  | unrepresentable
  deriving Repr, DecidableEq

def isNullWord (s : String) : Bool :=
  ["null", "Null", "NULL", "~"].contains s

def isBoolWord (s : String) : Bool :=
  ["true", "True", "TRUE", "false", "False", "FALSE"].contains s

def digitValue? (base : Nat) (c : Char) : Option Nat :=
  (hexDigit? c).filter (· < base)

def natValue? (base : Nat) (digits : List Char) : Option Nat :=
  if digits.isEmpty then none
  else digits.foldlM (fun n c => (digitValue? base c).map fun d => n * base + d) 0

def withoutSign (text : List Char) : List Char :=
  match text with
  | c :: rest => if c = '+' ∨ c = '-' then rest else c :: rest
  | [] => []

/-- Whether a text is a row of digits with a superfluous zero in front, which is no number. -/
def hasLeadingZero (text : List Char) : Bool :=
  match withoutSign text with
  | '0' :: c :: rest => (c :: rest).all Char.isDigit
  | _ => false

def basePrefixes : List (Char × Nat) :=
  [('x', 16), ('o', 8), ('b', 2)]

def statedBase? (text : List Char) : Option (Nat × List Char) :=
  match text with
  | '0' :: letter :: digits => (basePrefixes.lookup letter).map fun base => (base, digits)
  | _ => none

/-- The digits of a number in the base that it states, or in base ten.  The text has no sign and no
superfluous zero in front. -/
def unsigned? (text : List Char) : Option Nat :=
  match statedBase? text with
  | some (base, digits) => natValue? base digits
  | none => natValue? 10 text

def integerOf? (text : List Char) : Option Int :=
  if hasLeadingZero text then none
  else
    match text with
    | '-' :: digits => (unsigned? digits).map fun n => -(n : Int)
    | '+' :: digits => (unsigned? digits).map Int.ofNat
    | digits => (unsigned? digits).map Int.ofNat

/-- Whether an integer has at most so many bits: `bits` without a sign, or with one if it is
negative. -/
def fitsBits (bits : Nat) (n : Int) : Bool :=
  -(Nat.pow 2 (bits - 1) : Int) ≤ n && n < (Nat.pow 2 bits : Int)

/-- A decimal number: its digits as an integer, and the power of ten that it is multiplied by. -/
def decimalOf? (text : List Char) : Option (Nat × Int) := do
  let whole := text.takeWhile Char.isDigit
  let rest := text.dropWhile Char.isDigit
  let (fraction, rest) :=
    match rest with
    | '.' :: rest => (rest.takeWhile Char.isDigit, rest.dropWhile Char.isDigit)
    | rest => ([], rest)
  let value ← natValue? 10 (whole ++ fraction)
  let exponent ← match rest with
    | [] => some 0
    | 'e' :: power | 'E' :: power =>
      match power with
      | '-' :: digits => (natValue? 10 digits).map fun n => -(n : Int)
      | '+' :: digits => (natValue? 10 digits).map Int.ofNat
      | digits => (natValue? 10 digits).map Int.ofNat
    | _ => none
  some (value, exponent - fraction.length)

def isFloat (text : List Char) : Bool :=
  let plain := match text with
    | '+' :: rest => rest
    | text => text
  let signless := withoutSign text
  if ([".inf", ".Inf", ".INF"].map String.toList).contains signless then true
  else if ([".nan", ".NaN", ".NAN"].map String.toList).contains text then true
  else if plain.head? == some '+' || (text.head? == some '+' && plain.head? == some '-') then false
  else
    match decimalOf? signless with
    | some (value, exponent) => Decimal.inDoubleRange value exponent
    | none => false

/-- What an integer denotes: it is representable with at most sixty-four bits, and numbers of more
than a hundred and twenty-eight bits are not integers. -/
def integerKind? (text : List Char) : Option ScalarKind :=
  match integerOf? text with
  | none => none
  | some n =>
    if fitsBits 64 n then some .other else if fitsBits 128 n then some .unrepresentable else none

def plainKind (s : String) : ScalarKind :=
  if s.isEmpty || isNullWord s then .null
  else if isBoolWord s then .other
  else
    match integerKind? s.toList with
    | some kind => kind
    | none => if !hasLeadingZero s.toList && isFloat s.toList then .other else .text

/-- The names of the standard tags begin so. -/
def standardTag (name : String) : String :=
  "tag:yaml.org,2002:" ++ name

/-- Whether a tag is a local one, which means nothing here. -/
def isLocalTag (tag : String) : Bool :=
  tag.toList.head? == some '!'

/-- What a scalar with a tag denotes; the tag of a value of another form is an error. -/
def taggedKind (tag s : String) : ScalarKind :=
  if tag = standardTag "bool" then if isBoolWord s then .other else .unrepresentable
  else if tag = standardTag "int" then (integerKind? s.toList).getD .unrepresentable
  else if tag = standardTag "float" then
    if isFloat s.toList then .other else .unrepresentable
  else if tag = standardTag "null" then if isNullWord s then .null else .unrepresentable
  else if isLocalTag tag then .unrepresentable
  else .text

def scalarKind (tag : Option String) (style : ScalarStyle) (s : String) : ScalarKind :=
  match tag with
  | some tag => taggedKind tag s
  | none => if style = .plain then plainKind s else .text

end HttpInspection.Yaml
