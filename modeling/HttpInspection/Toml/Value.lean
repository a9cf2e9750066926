/-!
# TOML values

The values of a document.  Tables are built up from headers and keys; a table remembers whether a
header has defined it and whether dotted keys have, since neither may be extended by the other.
-/

set_option autoImplicit false

namespace HttpInspection.Toml

/-- A value.  Numbers with a fraction, dates and times are not told apart by what they denote. -/
inductive Value where
  | text (value : String)
  | integer (value : Int)
  | float
  | bool (value : Bool)
  | time
  | array (items : List Value)
  | inline (entries : List (String × Value))
  | table (entries : List (String × Value))
  deriving Inhabited

mutual

/-- What a key stands for while a document is read. -/
inductive Item where
  | value (value : Value)
  | table (table : Table)
  | tables (elements : List Table)

/-- A table while a document is read; `implicit` means that no header has defined it, `dotted` that
dotted keys have. -/
inductive Table where
  | mk (entries : List (String × Item)) (implicit : Bool) (dotted : Bool)

end

namespace Table

def entries : Table → List (String × Item)
  | mk entries _ _ => entries

def implicit : Table → Bool
  | mk _ implicit _ => implicit

def dotted : Table → Bool
  | mk _ _ dotted => dotted

def empty : Table := mk [] false false

def withEntries (table : Table) (entries : List (String × Item)) : Table :=
  mk entries table.implicit table.dotted

def get? (table : Table) (key : String) : Option Item :=
  table.entries.lookup key

/-- Entries with a new item for a key, at the place of its old one or at the end. -/
def setEntry (key : String) (item : Item) : List (String × Item) → List (String × Item)
  | [] => [(key, item)]
  | (other, old) :: rest =>
    if other = key then (key, item) :: rest else (other, old) :: setEntry key item rest

def set (table : Table) (key : String) (item : Item) : Table :=
  table.withEntries (setEntry key item table.entries)

def erase (table : Table) (key : String) : Table :=
  table.withEntries (table.entries.filter fun entry => entry.1 != key)

/-- Changes the table that a path leads to.  Tables on the way are created; a value is not a table,
and dotted keys must not lead into a table that a header has defined.  Of an array of tables, the
last one is meant. -/
def modify (viaDots : Bool) (change : Table → Option Table) : List String → Table → Option Table
  | [], table => change table
  | key :: path, table =>
    match table.get? key with
    | none => do
      let child ← modify viaDots change path (mk [] true viaDots)
      some (table.set key (.table child))
    | some (.value _) => none
    | some (.table child) =>
      if viaDots && !child.implicit then none
      else do
        let child ← modify viaDots change path child
        some (table.set key (.table child))
    | some (.tables elements) =>
      match elements.getLast? with
      | none => none
      | some last => do
        let last ← modify viaDots change path last
        some (table.set key (.tables (elements.dropLast ++ [last])))

/-- A table with a value for a key behind a dotted path.  A key is given once, and a table is either
dotted or not. -/
def insertValue (path : List String) (key : String) (value : Value) (table : Table) :
    Option Table :=
  table.modify true (fun target =>
    if target.dotted == path.isEmpty || (target.get? key).isSome then none
    else some (target.set key (.value value))) path

end Table

mutual

/-- The value of an item; a table within an inline table is inline, too. -/
def Item.toValue (within : Bool) : Item → Value
  | .value value => value
  | .table table =>
    if within then .inline (table.toEntries within) else .table (table.toEntries within)
  | .tables elements => .array (tableValues within elements)

def Table.toEntries (within : Bool) : Table → List (String × Value)
  | .mk entries _ _ => entryValues within entries

def entryValues (within : Bool) : List (String × Item) → List (String × Value)
  | [] => []
  | (key, item) :: rest => (key, item.toValue within) :: entryValues within rest

def tableValues (within : Bool) : List Table → List Value
  | [] => []
  | table :: rest => .table (table.toEntries within) :: tableValues within rest

end

end HttpInspection.Toml
