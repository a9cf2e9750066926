import HttpInspection.Http.Fault
import HttpInspection.Text.Lowercase
import HttpInspection.Text.Utf8

/-!
# Headers

The headers of a message: names in lower case in the order of their first appearance, each with its
values in order.
-/

set_option autoImplicit false

namespace HttpInspection.Http

/-- Whether a character may stand in a token, the form of methods and header names. -/
def isTokenCharacter (c : Char) : Bool :=
  c.isAlphanum || "!#$%&'*+-.^_|~".toList.contains c || c.toNat == 0x60

def headerNameLimit : Nat := 65535

/-- The canonical form of a header name: a token in lower case that is not too long. -/
def headerName? (text : String) : Option String :=
  let name := text.toList
  if !name.isEmpty && name.length ≤ headerNameLimit && name.all isTokenCharacter then
    some (asciiLowercase text)
  else none

/-- Whether a byte may stand in the value of a header: no control character but the tab. -/
def isHeaderByte (b : UInt8) : Bool :=
  (32 ≤ b && b ≠ 127) || b == 9

structure Headers where
  entries : List (String × List (List UInt8)) := []
  deriving Repr, DecidableEq

namespace Headers

/-- Entries with one more value of a name, beside its other values if there are any. -/
def insertValue (name : String) (value : List UInt8) :
    List (String × List (List UInt8)) → List (String × List (List UInt8))
  | [] => [(name, [value])]
  | (other, values) :: rest =>
    if other = name then (other, values ++ [value]) :: rest
    else (other, values) :: insertValue name value rest

def append (headers : Headers) (name : String) (value : List UInt8) : Headers :=
  ⟨insertValue name value headers.entries⟩

def getAll (headers : Headers) (name : String) : List (List UInt8) :=
  ((headers.entries.find? fun entry => entry.1 == name).map Prod.snd).getD []

/-- The first value of a header. -/
def get? (headers : Headers) (name : String) : Option (List UInt8) :=
  (headers.getAll name).head?

/-- The headers as texts, ill-formed UTF-8 replaced. -/
def texts (headers : Headers) : List (String × List String) :=
  headers.entries.map fun (name, values) => (name, values.map lossyText)

/-- Headers with further pairs of a name and a value; the fault is that of the first pair that is
not acceptable. -/
def appendAll (headers : Headers) : List (String × List UInt8) → Except Fault Headers
  | [] => .ok headers
  | (text, value) :: rest =>
    match headerName? text with
    | none => .error .headerName
    | some name =>
      if value.all isHeaderByte then appendAll (headers.append name value) rest
      else .error .headerValue

def ofPairs (pairs : List (String × List UInt8)) : Except Fault Headers :=
  appendAll {} pairs

end Headers

end HttpInspection.Http
