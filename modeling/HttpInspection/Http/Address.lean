/-!
# Client addresses

Internet addresses of version four and six as they are read in endpoints, and their canonical
texts.
-/

set_option autoImplicit false

namespace HttpInspection.Http

/-- An internet address: four octets, or eight groups of sixteen bits. -/
inductive IpAddress where
  | four (octets : List Nat)
  | six (groups : List Nat)
  deriving Repr, DecidableEq

namespace IpAddress

def digit? (base : Nat) (c : Char) : Option Nat :=
  let value :=
    if '0' ≤ c ∧ c ≤ '9' then some (c.toNat - 48)
    else if 'a' ≤ c ∧ c ≤ 'f' then some (c.toNat - 87)
    else if 'A' ≤ c ∧ c ≤ 'F' then some (c.toNat - 55)
    else none
  value.filter (· < base)

def digits (base : Nat) : List Char → List Nat × List Char
  | [] => ([], [])
  | c :: rest =>
    match digit? base c with
    | some value =>
      let (values, back) := digits base rest
      (value :: values, back)
    | none => ([], c :: rest)

def valueOf (base : Nat) (values : List Nat) : Nat :=
  values.foldl (fun number value => number * base + value) 0

def readNumber (base bound : Nat) (text : List Char) : Option (Nat × List Char) :=
  let (values, rest) := digits base text
  let value := valueOf base values
  if values.isEmpty || bound ≤ value then none else some (value, rest)

/-- An octet: at most three decimal digits without a superfluous zero. -/
def readOctet (text : List Char) : Option (Nat × List Char) :=
  let (values, rest) := digits 10 text
  if 3 < values.length || (1 < values.length && values.head? == some 0) then none
  else
    let value := valueOf 10 values
    if values.isEmpty || 256 ≤ value then none else some (value, rest)

def readGroup (text : List Char) : Option (Nat × List Char) :=
  let (values, rest) := digits 16 text
  if values.isEmpty || 4 < values.length then none else some (valueOf 16 values, rest)

def expect (c : Char) : List Char → Option (List Char)
  | [] => none
  | d :: rest => if d = c then some rest else none

def readFour (text : List Char) : Option (List Nat × List Char) := do
  let (a, text) ← readOctet text
  let (b, text) ← readOctet (← expect '.' text)
  let (c, text) ← readOctet (← expect '.' text)
  let (d, text) ← readOctet (← expect '.' text)
  some ([a, b, c, d], text)

/-- The text after the separator of groups; the first group has none. -/
def afterSeparator (isFirst : Bool) (text : List Char) : Option (List Char) :=
  if isFirst then some text else expect ':' text

/-- Groups with colons between them, at most `room` of them.  An address of version four may stand
in the place of two groups, and it ends them.  Gives whether one did, and what follows. -/
def readGroups : Nat → Bool → List Char → List Nat × Bool × List Char
  | 0, _, text => ([], false, text)
  | room + 1, isFirst, text =>
    match afterSeparator isFirst text with
    | none => ([], false, text)
    | some next =>
      match if room = 0 then none else readFour next with
      | some ([a, b, c, d], rest) => ([a * 256 + b, c * 256 + d], true, rest)
      | _ =>
        match readGroup next with
        | none => ([], false, text)
        | some (group, rest) =>
          let (groups, embedded, rest) := readGroups room false rest
          (group :: groups, embedded, rest)

/-- Eight groups, or fewer with a double colon in the place of zeros. -/
def readSix (text : List Char) : Option (List Nat × List Char) := do
  let (front, embedded, rest) := readGroups 8 true text
  if front.length = 8 then some (front, rest)
  else if embedded then none
  else
    let rest ← expect ':' (← expect ':' rest)
    let (back, _, rest) := readGroups (7 - front.length) true rest
    some (front ++ List.replicate (8 - front.length - back.length) 0 ++ back, rest)

def readEndpointNumber (text : List Char) : Option Unit := do
  let (_, rest) ← readNumber 10 65536 (← expect ':' text)
  if rest.isEmpty then some () else none

def afterZone (text : List Char) : List Char :=
  match (expect '%' text).bind (readNumber 10 4294967296) with
  | some (_, rest) => rest
  | none => text

/-- The address of an endpoint, that is, of an address with a number behind a colon. -/
def ofEndpoint? (text : String) : Option IpAddress :=
  match readFour text.toList with
  | some (octets, rest) => (readEndpointNumber rest).map fun _ => four octets
  | none => do
    let (groups, rest) ← readSix (← expect '[' text.toList)
    readEndpointNumber (← expect ']' (afterZone rest))
    some (six groups)

def dotted (octets : List Nat) : String :=
  ".".intercalate (octets.map toString)

def colonSeparated (groups : List Nat) : String :=
  ":".intercalate (groups.map fun group => String.ofList (Nat.toDigits 16 group))

def leadingZeros (groups : List Nat) : Nat :=
  (groups.takeWhile (· == 0)).length

/-- The first longest run of zeros, as its start and its length. -/
def longestZeros : Nat → List Nat → Nat × Nat
  | _, [] => (0, 0)
  | start, group :: rest =>
    let here := leadingZeros (group :: rest)
    let later := longestZeros (start + 1) rest
    if later.2 ≤ here then (start, here) else later

/-- The text of eight groups: the first longest run of two or more zeros is left out. -/
def compressed (groups : List Nat) : String :=
  let (start, count) := longestZeros 0 groups
  if 1 < count then
    colonSeparated (groups.take start) ++ "::" ++ colonSeparated (groups.drop (start + count))
  else colonSeparated groups

/-- The canonical text of an address.  Groups that hold an address of version four show it. -/
def text : IpAddress → String
  | four octets => dotted octets
  | six [0, 0, 0, 0, 0, 0xFFFF, high, low] =>
    "::ffff:" ++ dotted [high / 256, high % 256, low / 256, low % 256]
  | six groups => compressed groups

end IpAddress

end HttpInspection.Http
