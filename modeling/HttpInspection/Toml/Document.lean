import HttpInspection.Document.Fault
import HttpInspection.Toml.Scalar
import HttpInspection.Toml.Text

/-!
# TOML documents

A document is a sequence of headers and of keys with their values, one on a line.  The keys behind a
header belong to its table.  Entries keep the order in which they are written, except that a table
that a header defines after some of its subtables takes a new place.
-/

set_option autoImplicit false

namespace HttpInspection.Toml

/-- Arrays and inline tables are nested less deeply than this. -/
def nestingLimit : Nat := 80

structure Pair where
  path : List String
  key : String
  value : Value

def inlineTable? (pairs : List Pair) : Option Value := do
  let table ← pairs.foldlM (fun table pair => table.insertValue pair.path pair.key pair.value)
    Table.empty
  some (.inline (table.toEntries true))

mutual

/-- The value at the front of a text; `fuel` bounds the number of steps and `depth` is the number of
containers around it. -/
def readValue (depth : Nat) : Nat → List Char → Option (Value × List Char)
  | 0, _ => none
  | fuel + 1, text =>
    match text with
    | '"' :: rest => (readString '"' rest).map fun (value, rest) => (.text value, rest)
    | '\'' :: rest => (readString '\'' rest).map fun (value, rest) => (.text value, rest)
    | '[' :: rest =>
      if depth + 1 < nestingLimit then
        (readItems (depth + 1) fuel rest).map fun (items, rest) => (.array items, rest)
      else none
    | '{' :: rest =>
      if depth + 1 < nestingLimit then
        match skipSpaces rest with
        | '}' :: rest => some (.inline [], rest)
        | rest => do
          let (pairs, rest) ← readPairs (depth + 1) fuel rest
          some (← inlineTable? pairs, rest)
      else none
    | text => do
      let (word, rest) := readWord text
      some (← wordValue? word, rest)

def readItems (depth : Nat) : Nat → List Char → Option (List Value × List Char)
  | 0, _ => none
  | fuel + 1, text =>
    match skipLines fuel text with
    | ']' :: rest => some ([], rest)
    | text => do
      let (item, rest) ← readValue depth fuel text
      match skipLines fuel rest with
      | ',' :: rest =>
        let (items, rest) ← readItems depth fuel rest
        some (item :: items, rest)
      | ']' :: rest => some ([item], rest)
      | _ => none

def readPairs (depth : Nat) : Nat → List Char → Option (List Pair × List Char)
  | 0, _ => none
  | fuel + 1, text => do
    let (path, key, rest) ← readKey text
    match rest with
    | '=' :: rest =>
      let (value, rest) ← readValue depth fuel (skipSpaces rest)
      match skipSpaces rest with
      | ',' :: rest =>
        let (pairs, rest) ← readPairs depth fuel rest
        some (⟨path, key, value⟩ :: pairs, rest)
      | '}' :: rest => some ([⟨path, key, value⟩], rest)
      | _ => none
    | _ => none

end

/-! ## Sections -/

/-- The table that a header has begun and where it belongs. -/
structure Section where
  path : List String
  key : String
  repeated : Bool
  table : Table

/-- A document while it is read: what is complete, and the section that is open.  Without a section
the keys belong to the document itself. -/
structure Draft where
  root : Table := Table.empty
  current : Option Section := none

namespace Draft

/-- The array of tables that an item is, if it is one; a new one if there is none. -/
def tables? : Option Item → Option (List Table)
  | none => some []
  | some (.tables elements) => some elements
  | some _ => none

def close (draft : Draft) : Option Table :=
  match draft.current with
  | none => some draft.root
  | some part =>
    draft.root.modify false (fun parent =>
      if part.repeated then do
        let elements ← tables? (parent.get? part.key)
        some (parent.set part.key (.tables (elements ++ [part.table])))
      else some (parent.set part.key (.table part.table))) part.path

def insert (draft : Draft) (pair : Pair) : Option Draft :=
  match draft.current with
  | none => do
    some { draft with root := ← draft.root.insertValue pair.path pair.key pair.value }
  | some part => do
    let table ← part.table.insertValue pair.path pair.key pair.value
    some { draft with current := some { part with table } }

/-- The table that a header defines: a new one, or one that so far has got its subtables only. -/
def definable? : Option Item → Option Table
  | none => some Table.empty
  | some (.table table) =>
    if table.implicit && !table.dotted then some (.mk table.entries false false) else none
  | some _ => none

def itemAt? : List String → String → Table → Option Item
  | [], key, table => table.get? key
  | part :: path, key, table =>
    match table.get? part with
    | some (.table child) => itemAt? path key child
    | some (.tables elements) => elements.getLast?.bind (itemAt? path key)
    | _ => none

def openTable (draft : Draft) (path : List String) (key : String) : Option Draft := do
  let root ← draft.close
  let table ← definable? (itemAt? path key root)
  let root ← root.modify false (fun parent => some (parent.erase key)) path
  some ⟨root, some ⟨path, key, false, table⟩⟩

def openElement (draft : Draft) (path : List String) (key : String) : Option Draft := do
  let root ← draft.close
  let root ← root.modify false (fun parent => do
    let elements ← tables? (parent.get? key)
    some (parent.set key (.tables elements))) path
  some ⟨root, some ⟨path, key, true, Table.empty⟩⟩

def readHeader (draft : Draft) (text : List Char) : Option (Draft × List Char) :=
  match text with
  | '[' :: rest => do
    let (path, key, rest) ← readKey rest
    match rest with
    | ']' :: ']' :: rest => some (← draft.openElement path key, ← endLine? rest)
    | _ => none
  | rest => do
    let (path, key, rest) ← readKey rest
    match rest with
    | ']' :: rest => some (← draft.openTable path key, ← endLine? rest)
    | _ => none

def readPair (draft : Draft) (text : List Char) : Option (Draft × List Char) := do
  let (path, key, rest) ← readKey text
  match rest with
  | '=' :: rest =>
    let rest := skipSpaces rest
    let (value, rest) ← readValue 0 (rest.length + 1) rest
    some (← draft.insert ⟨path, key, value⟩, ← endLine? rest)
  | _ => none

/-- The draft after the rest of a text; `fuel` bounds the number of lines. -/
def readAll : Nat → Draft → List Char → Option Draft
  | 0, _, _ => none
  | fuel + 1, draft, text =>
    match skipLines (fuel + 1) text with
    | [] => some draft
    | '[' :: rest => do
      let (draft, rest) ← draft.readHeader rest
      readAll fuel draft rest
    | text => do
      let (draft, rest) ← draft.readPair text
      readAll fuel draft rest

end Draft

def skipByteOrderMark : List Char → List Char
  | c :: rest => if c.toNat = 0xFEFF then rest else c :: rest
  | [] => []

def read (text : String) : Except DocumentFault (List (String × Value)) :=
  let text := skipByteOrderMark text.toList
  match (Draft.readAll (text.length + 1) {} text).bind Draft.close with
  | some table => .ok (table.toEntries false)
  | none => .error .malformed

end HttpInspection.Toml
