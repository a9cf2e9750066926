import HttpInspection.Document.Fault
import HttpInspection.Json.Read

/-!
# Records in JSON

A record is an object with known fields in any order, or an array of the fields in their order.  The
first fault in the order of the text is the one that is reported; a missing field is noticed at the
end of an object.
-/

set_option autoImplicit false

namespace HttpInspection.Json

abbrev Decoder (α : Type) := Json → Except DocumentFault α

def asText : Decoder String
  | string (some text) => .ok text
  | _ => .error .malformed

def asBool : Decoder Bool
  | bool value => .ok value
  | _ => .error .malformed

/-- The integer that digits write, with an optional sign.  A negative zero is no integer. -/
def integer? (lexeme : List Char) : Option Int :=
  let value (digits : List Char) : Option Nat :=
    if digits.all Char.isDigit then
      some (digits.foldl (fun n c => n * 10 + (c.toNat - 48)) 0)
    else none
  match lexeme with
  | '-' :: digits => (value digits).bind fun n => if n = 0 then none else some (-(n : Int))
  | digits => (value digits).map Int.ofNat

def asIntBetween (least greatest : Int) : Decoder Int
  | number lexeme =>
    match integer? lexeme with
    | some n => if least ≤ n ∧ n ≤ greatest then .ok n else .error .malformed
    | none => .error .malformed
  | _ => .error .malformed

def asInt : Decoder Int :=
  asIntBetween (-(Nat.pow 2 63 : Int)) ((Nat.pow 2 63 : Int) - 1)

def asNat : Decoder Nat := fun value =>
  (asIntBetween 0 ((Nat.pow 2 64 : Int) - 1) value).map Int.toNat

def asOption {α : Type} (decoder : Decoder α) : Decoder (Option α)
  | null => .ok none
  | value => (decoder value).map some

/-- The items of an array up to the first fault. -/
def asList {α : Type} (decoder : Decoder α) : Decoder (List α)
  | array items closed => do
    let values ← items.mapM decoder
    if closed then .ok values else .error .malformed
  | _ => .error .malformed

/-- One of several names, written as a string, or as an object with the name and null. -/
def asVariant {α : Type} (variants : List (String × α)) : Decoder α
  | string (some name) => choose name
  | object ((name, value) :: rest) closed => do
    let chosen ← choose name
    match value, rest, closed with
    | null, [], true => .ok chosen
    | _, _, _ => .error .malformed
  | _ => .error .malformed
where
  choose (name : String) : Except DocumentFault α :=
    match variants.lookup name with
    | some value => .ok value
    | none => .error (.unknownVariant name (variants.map Prod.fst))

def asWord {α : Type} (parse : String → Except TokenFault α) : Decoder α := fun value => do
  match parse (← value.asText) with
  | .ok word => .ok word
  | .error fault => .error (.word fault)

/-- Any value that is read to its end. -/
def checkWhole (value : Json) : Except DocumentFault Unit :=
  if value.isWhole then .ok () else .error .malformed

/-- The known fields of a record and what their values have to be. -/
abbrev Fields := List (String × Decoder Unit)

def field {α : Type} (name : String) (decoder : Decoder α) : String × Decoder Unit :=
  (name, fun value => (decoder value).map fun _ => ())

/-- Checks the entries of an object in order: each known field occurs once and has a value of its
kind. -/
def checkEntries (known : Fields) : List String → List (String × Json) → Except DocumentFault Unit
  | _, [] => .ok ()
  | seen, (name, value) :: rest =>
    match known.lookup name with
    | none => do
      checkWhole value
      checkEntries known seen rest
    | some decoder =>
      if seen.contains name then .error .malformed
      else do
        decoder value
        checkEntries known (name :: seen) rest

/-- Checks the items of an array against the fields in their order. -/
def checkItems : Fields → List Json → Except DocumentFault Unit
  | _, [] => .ok ()
  | [], _ :: _ => .error .malformed
  | (_, decoder) :: known, item :: rest => do
    decoder item
    checkItems known rest

/-- The fields of a record by name.  In an array, `needed` fields have to be there. -/
def fields (known : Fields) (needed : Nat) : Decoder (List (String × Json))
  | object entries closed => do
    checkEntries known [] entries
    if closed then .ok entries else .error .malformed
  | array items closed => do
    checkItems known items
    if closed && needed ≤ items.length then .ok ((known.map Prod.fst).zip items)
    else .error .malformed
  | _ => .error .malformed

def required {α : Type} (fields : List (String × Json)) (name : String) (decoder : Decoder α) :
    Except DocumentFault α :=
  match fields.lookup name with
  | some value => decoder value
  | none => .error (.missingField name)

def optional {α : Type} (fields : List (String × Json)) (name : String) (default : α)
    (decoder : Decoder α) : Except DocumentFault α :=
  match fields.lookup name with
  | some value => decoder value
  | none => .ok default

/-- What a text denotes, with nothing after it. -/
def decode {α : Type} (decoder : Decoder α) (text : String) : Except DocumentFault α := do
  let (value, complete) := read text
  let decoded ← decoder value
  if complete then .ok decoded else .error .malformed

end HttpInspection.Json
