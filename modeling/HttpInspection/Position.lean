import HttpInspection.Finding
import HttpInspection.Notice
import HttpInspection.Text.Lowercase
import HttpInspection.Text.Split

/-!
# Places in the raw exchange

A textual finding gets the first line of the raw exchange in which its text occurs, regardless of
the case of ASCII letters, and the byte offset of the first occurrence in that line.  A text that
occurs in no line is not in the exchange as it was sent, and its finding is dropped.
-/

set_option autoImplicit false

namespace HttpInspection

/-- The byte offset of the first occurrence of a text in a line, regardless of ASCII case. -/
def offsetIn? (needle line : List Char) : Option Nat :=
  (beforeFirst? (Lowercase.ascii needle) (Lowercase.ascii line)).map Utf8.byteLength

/-- The number of the first line with the needle, counted from `first`, and the offset in it. -/
def locateInLines (needle : List Char) (first : Nat) : List (List Char) → Option (Nat × Nat)
  | [] => none
  | line :: rest =>
    match offsetIn? needle line with
    | some offset => some (first, offset)
    | none => locateInLines needle (first + 1) rest

/-- The line and the byte offset of the first occurrence of a text that is not empty. -/
def locate (raw needle : String) : Option (Nat × Nat) :=
  if needle.isEmpty then none else locateInLines needle.toList 0 (splitLines raw.toList)

namespace Finding

/-- A finding with its place in the raw exchange, unless it needs a place and has none. -/
def resolve? (raw : String) (finding : Finding) : Option Finding :=
  if finding.isResolved then some finding
  else (locate raw finding.matchedString).map fun (line, offset) => finding.placed line offset

def droppedNotice (finding : Finding) : Notice :=
  .findingDropped finding.ruleId (.unlocated finding.matchedString)

end Finding

/-- The findings that have their places in the raw exchange; the others are dropped. -/
def resolveAll (raw : String) (findings : List Finding) : Traced (List Finding) :=
  ⟨findings.filterMap (Finding.resolve? raw),
    (findings.filter fun finding => (finding.resolve? raw).isNone).map Finding.droppedNotice⟩

end HttpInspection
