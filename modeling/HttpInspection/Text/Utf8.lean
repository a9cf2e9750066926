/-!
# UTF-8

Texts as scalar values and as bytes.  `encode` writes a text, `decodeLossy` reads any byte string:
each longest prefix that no continuation makes well formed becomes one U+FFFD.  `decode?` accepts
exactly the byte strings that `encode` writes.
-/

set_option autoImplicit false

namespace HttpInspection.Utf8

def encodeChar (c : Char) : List UInt8 :=
  let n := c.toNat
  if n < 0x80 then [n.toUInt8]
  else if n < 0x800 then [(0xC0 + n / 0x40).toUInt8, (0x80 + n % 0x40).toUInt8]
  else if n < 0x10000 then
    [(0xE0 + n / 0x1000).toUInt8, (0x80 + n / 0x40 % 0x40).toUInt8, (0x80 + n % 0x40).toUInt8]
  else
    [(0xF0 + n / 0x40000).toUInt8, (0x80 + n / 0x1000 % 0x40).toUInt8,
      (0x80 + n / 0x40 % 0x40).toUInt8, (0x80 + n % 0x40).toUInt8]

def encode (text : List Char) : List UInt8 :=
  text.flatMap encodeChar

def byteLength (text : List Char) : Nat :=
  (encode text).length

/-- A scalar of which some bytes are missing: the value so far, the range of the next byte, and the
number of bytes after that one. -/
structure Pending where
  value : Nat
  low : UInt8
  high : UInt8
  more : Nat
  deriving Repr, DecidableEq

/-- What a leading byte announces: a scalar of its own, a longer scalar, or nothing at all. -/
inductive Lead where
  | single (value : Nat)
  | multi (pending : Pending)
  | invalid
  deriving Repr, DecidableEq

/-- Overlong forms, surrogates and values above U+10FFFF are cut off by the range of the second
byte. -/
def lead (b : UInt8) : Lead :=
  let n := b.toNat
  if n < 0x80 then .single n
  else if n < 0xC2 then .invalid
  else if n < 0xE0 then .multi ⟨n - 0xC0, 0x80, 0xBF, 0⟩
  else if n = 0xE0 then .multi ⟨0, 0xA0, 0xBF, 1⟩
  else if n = 0xED then .multi ⟨0xD, 0x80, 0x9F, 1⟩
  else if n < 0xF0 then .multi ⟨n - 0xE0, 0x80, 0xBF, 1⟩
  else if n = 0xF0 then .multi ⟨0, 0x90, 0xBF, 2⟩
  else if n < 0xF4 then .multi ⟨n - 0xF0, 0x80, 0xBF, 2⟩
  else if n = 0xF4 then .multi ⟨4, 0x80, 0x8F, 2⟩
  else .invalid

def replacement : Char := Char.ofNat 0xFFFD

def begin (b : UInt8) : List Char × Option Pending :=
  match lead b with
  | .single value => ([Char.ofNat value], none)
  | .multi pending => ([], some pending)
  | .invalid => ([replacement], none)

/-- The characters that a byte completes, and what it leaves pending.  A byte that does not fit the
pending scalar ends it as ill formed and is read as a leading byte. -/
def step : Option Pending → UInt8 → List Char × Option Pending
  | none, b => begin b
  | some pending, b =>
    if pending.low ≤ b ∧ b ≤ pending.high then
      let value := pending.value * 0x40 + b.toNat % 0x40
      match pending.more with
      | 0 => ([Char.ofNat value], none)
      | more + 1 => ([], some ⟨value, 0x80, 0xBF, more⟩)
    else
      let (completed, next) := begin b
      (replacement :: completed, next)

def decodeAfter : Option Pending → List UInt8 → List Char
  | none, [] => []
  | some _, [] => [replacement]
  | pending, b :: rest => (step pending b).1 ++ decodeAfter (step pending b).2 rest

/-- The text of a byte string, with U+FFFD for each maximal ill-formed prefix. -/
def decodeLossy (bytes : List UInt8) : List Char :=
  decodeAfter none bytes

/-- The text of a well-formed byte string.  A byte string is well formed when nothing is lost by
reading it, so that writing the result gives it back. -/
def decode? (bytes : List UInt8) : Option (List Char) :=
  let text := decodeLossy bytes
  if encode text = bytes then some text else none

end HttpInspection.Utf8

namespace HttpInspection

def bytesOf (s : String) : List UInt8 :=
  Utf8.encode s.toList

def lossyText (bytes : List UInt8) : String :=
  String.ofList (Utf8.decodeLossy bytes)

def strictText? (bytes : List UInt8) : Option String :=
  (Utf8.decode? bytes).map String.ofList

end HttpInspection
