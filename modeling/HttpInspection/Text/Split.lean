/-!
# Cutting texts

Splitting at a separator, cutting at its first occurrence, and searching for one text in another.
The pieces of a split, with the separator between them, are the text that was split.
-/

set_option autoImplicit false

namespace HttpInspection

/-- The pieces of a list between the elements that satisfy a test; one piece more than there are
such elements. -/
def splitAtEvery {α : Type} (isSeparator : α → Bool) : List α → List (List α)
  | [] => [[]]
  | a :: rest =>
    if isSeparator a then [] :: splitAtEvery isSeparator rest
    else
      match splitAtEvery isSeparator rest with
      | [] => [[a]]
      | piece :: pieces => (a :: piece) :: pieces

/-- The parts before and after the first element that satisfies a test. -/
def cutAtFirst {α : Type} (isSeparator : α → Bool) : List α → Option (List α × List α)
  | [] => none
  | a :: rest =>
    if isSeparator a then some ([], rest)
    else (cutAtFirst isSeparator rest).map fun (front, back) => (a :: front, back)

def startsWith {α : Type} [BEq α] : List α → List α → Bool
  | [], _ => true
  | _ :: _, [] => false
  | a :: needle, b :: rest => a == b && startsWith needle rest

def beforeFirst? {α : Type} [BEq α] (needle : List α) : List α → Option (List α)
  | [] => if needle.isEmpty then some [] else none
  | a :: rest =>
    if startsWith needle (a :: rest) then some []
    else (beforeFirst? needle rest).map (a :: ·)

def occursIn {α : Type} [BEq α] (needle text : List α) : Bool :=
  (beforeFirst? needle text).isSome

/-- The lines of a text; a newline ends a line and begins another. -/
def splitLines (text : List Char) : List (List Char) :=
  splitAtEvery (· == '\n') text

def joinWith {α : Type} (separator : List α) : List (List α) → List α
  | [] => []
  | [piece] => piece
  | piece :: pieces => piece ++ separator ++ joinWith separator pieces

end HttpInspection
