import HttpInspection.Codec.Base64
import HttpInspection.Codec.Query
import HttpInspection.Rule.Token
import HttpInspection.Text.Utf8

/-!
# Decode candidates

A value is searched in its raw form and in every form that a sequence of distinct declared encodings
leads to, so that nested encodings are undone whatever their order.
-/

set_option autoImplicit false

namespace HttpInspection

namespace Query

def unescapeText (text : String) : Except Failure String :=
  match unescape (bytesOf text) with
  | .ok bytes => .ok (lossyText bytes)
  | .error bytes =>
    let escape := lossyText bytes
    .error (.undecodable Encoding.url.word s!"invalid escape '{escape}'")

/-- The text that a text stands for when malformed escapes are ordinary text. -/
def unescapeTextLenient (plusIsBlank : Bool) (text : String) : String :=
  lossyText (unescapeLenient plusIsBlank (bytesOf text))

end Query

namespace Encoding

def decode (encoding : Encoding) (value : String) : Except Failure String :=
  match encoding with
  | base64 =>
    match Base64.decode? (bytesOf value) with
    | some bytes => .ok (lossyText bytes)
    | none => .error (.undecodable base64.word "not a canonical padded text")
  | url => Query.unescapeText value

/-- Decodes along a sequence of encodings.  A step that does not apply ends the sequence; what was
decoded before it is kept, and the failure is given beside it. -/
def decodeAlong : List Encoding → String → String × Option Failure
  | [], value => (value, none)
  | encoding :: rest, value =>
    match encoding.decode value with
    | .ok decoded => decodeAlong rest decoded
    | .error failure => (value, some failure)

end Encoding

/-- A walk over the places below a bound: which of them are taken, those in the order in which they
were taken, and the orders that have been found.  What came last stands first. -/
structure PlaceWalk where
  taken : List Bool
  order : List Nat := []
  found : List (List Nat) := []
  deriving Repr, DecidableEq

namespace PlaceWalk

def start (n : Nat) : PlaceWalk where
  taken := List.replicate n false

def isFree (walk : PlaceWalk) (place : Nat) : Bool :=
  walk.taken[place]? == some false

def take (walk : PlaceWalk) (place : Nat) : PlaceWalk :=
  { walk with taken := walk.taken.set place true, order := place :: walk.order }

def giveBack (walk : PlaceWalk) (place : Nat) : PlaceWalk :=
  { walk with taken := walk.taken.set place false, order := walk.order.tail }

/-- Goes on from a place and comes back, unless the place is taken. -/
def visit (goOn : PlaceWalk → PlaceWalk) (walk : PlaceWalk) (place : Nat) : PlaceWalk :=
  if walk.isFree place then (goOn (walk.take place)).giveBack place else walk

/-- Finds all orders that go on with so many more places. -/
def explore : Nat → PlaceWalk → PlaceWalk
  | 0, walk => { walk with found := walk.order.reverse :: walk.found }
  | missing + 1, walk => (List.range walk.taken.length).foldl (visit (explore missing)) walk

end PlaceWalk

def permutations (n size : Nat) : List (List Nat) :=
  if size = 0 ∨ n < size then [] else ((PlaceWalk.start n).explore size).found.reverse

def atPlaces {α : Type} (items : List α) (places : List Nat) : List α :=
  places.filterMap fun place => items[place]?

/-- The sequences of encodings to undo: those of one encoding, then those of two, and so on. -/
def decodeOrders (encodings : List Encoding) : List (List Encoding) :=
  (List.range encodings.length).flatMap fun i =>
    (permutations encodings.length (i + 1)).map (atPlaces encodings)

/-- The forms in which a value is searched: the value itself, then one for each sequence. -/
def candidates (value : String) (encodings : List Encoding) : List String :=
  value :: (decodeOrders encodings).map fun order => (Encoding.decodeAlong order value).1

/-- The steps that did not apply while the candidates were formed. -/
def candidateFailures (value : String) (encodings : List Encoding) : List Failure :=
  (decodeOrders encodings).filterMap fun order => (Encoding.decodeAlong order value).2

end HttpInspection
