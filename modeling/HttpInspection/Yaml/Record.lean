import HttpInspection.Document.Fault
import HttpInspection.Yaml.Kind

/-!
# Records in YAML

Decoders of nodes.  The first fault in the order of the text is the one that is reported.  Aliases are
followed, but only so often, and collections are entered only so deep.
-/

set_option autoImplicit false

namespace HttpInspection.Yaml

/-- A decoder's result; it counts the aliases that are followed. -/
abbrev Decoding := StateT Nat (Except DocumentFault)

def malformed {α : Type} : Decoding α :=
  throw .malformed

mutual

/-- The number of marks that a node is written with: one for a scalar or an alias, two around a
collection. -/
def Node.size : Node → Nat
  | .scalar _ _ _ | .alias _ | .void => 1
  | .sequence _ items closed => 1 + sizeOfItems items + closed.toNat
  | .mapping _ entries closed => 1 + sizeOfEntries entries + closed.toNat
  | .broken => 0

def sizeOfItems : List Node → Nat
  | [] => 0
  | item :: rest => item.size + sizeOfItems rest

def sizeOfEntries : List (Node × Node) → Nat
  | [] => 0
  | (key, value) :: rest => key.size + value.size + sizeOfEntries rest

end

mutual

def Node.isWhole : Node → Bool
  | .sequence _ items closed => closed && areWhole items
  | .mapping _ entries closed => closed && areWholeEntries entries
  | .broken => false
  | _ => true

def areWhole : List Node → Bool
  | [] => true
  | item :: rest => item.isWhole && areWhole rest

def areWholeEntries : List (Node × Node) → Bool
  | [] => true
  | (key, value) :: rest => key.isWhole && value.isWhole && areWholeEntries rest

end

/-- How many aliases may be followed for each mark of a document. -/
def aliasFactor : Nat := 100

def depthLimit : Nat := 128

/-- A node as it is seen by a decoder: an alias is the node that it refers to. -/
def follow (document : Document) (node : Node) : Decoding Node :=
  match node with
  | .alias number => do
    let count ← get
    set (count + 1)
    if aliasFactor * document.root.size < count + 1 then malformed
    else
      match document.find? number with
      | some target => pure target
      | none => malformed
  | node => pure node

abbrev Decoder (α : Type) := Document → Node → Decoding α

/-- The text of a scalar, whatever it denotes. -/
def asText : Decoder String := fun document node => do
  match ← follow document node with
  | .scalar _ _ text => pure text
  | _ => malformed

/-- Whether nothing is written where a collection may stand. -/
def isBlankNode : Node → Bool
  | .void => true
  | .scalar _ style text => style == .plain && text.isEmpty
  | _ => false

/-- Whether a plain scalar stands for the lack of a value; a tag that asks for it must be right. -/
def isAbsent (tag : Option String) (style : ScalarStyle) (text : String) : Decoding Bool :=
  if style = .plain then
    match tag with
    | some tag =>
      if tag = standardTag "null" then if isNullWord text then pure true else malformed
      else pure false
    | none => pure (text.isEmpty || isNullWord text)
  else pure false

def asOption {α : Type} (decoder : Decoder α) : Decoder (Option α) := fun document node => do
  match ← follow document node with
  | .void => pure none
  | .scalar tag style text => do
    if ← isAbsent tag style text then pure none
    else return some (← decoder document (.scalar tag style text))
  | .broken => malformed
  | node => return some (← decoder document node)

def asList {α : Type} (decoder : Decoder α) : Decoder (List α) := fun document node => do
  match ← follow document node with
  | .sequence _ items closed => do
    let values ← items.mapM (decoder document)
    if closed then pure values else malformed
  | node => if isBlankNode node then pure [] else malformed

def asWord {α : Type} (parse : String → Except TokenFault α) : Decoder α := fun document node => do
  match parse (← asText document node) with
  | .ok word => pure word
  | .error fault => throw (.word fault)

def asEntries : Decoder (List (Node × Node) × Bool) := fun document node => do
  match ← follow document node with
  | .mapping _ entries closed => pure (entries, closed)
  | node => if isBlankNode node then pure ([], true) else malformed

/-- A field of a record: its name, and how its value changes the record. -/
abbrev RecordField (σ : Type) := String × (Document → Node → σ → Decoding σ)

def field {σ α : Type} (name : String) (decoder : Decoder α) (put : α → σ → σ) : RecordField σ :=
  (name, fun document node record => do return put (← decoder document node) record)

/-- A record that is being read, and the names of the fields that it has got. -/
structure Partial (σ : Type) where
  record : σ
  seen : List String := []

/-- Reads entries in order.  A known field occurs once; `other` takes what is not known. -/
def readFields {σ : Type} (fields : List (RecordField σ))
    (other : Document → String → Node → σ → Decoding σ) (document : Document) :
    List (Node × Node) → Partial σ → Decoding (Partial σ)
  | [], state => pure state
  | (key, value) :: rest, state => do
    let name ← asText document key
    match fields.lookup name with
    | some read =>
      if state.seen.contains name then malformed
      else do
        let record ← read document value state.record
        readFields fields other document rest ⟨record, name :: state.seen⟩
    | none => do
      let record ← other document name value state.record
      readFields fields other document rest { state with record }

/-- The first of the needed fields that a record has not got is the fault. -/
def requireFields (needed seen : List String) : Decoding Unit :=
  match needed.find? fun name => !seen.contains name with
  | some name => throw (.missingField name)
  | none => pure ()

/-- Unknown entries are passed over once they are read. -/
def ignoreOther {σ : Type} (_ : Document) (_ : String) (value : Node) (record : σ) : Decoding σ :=
  if value.isWhole then pure record else malformed

def asRecord {σ : Type} (fields : List (RecordField σ)) (needed : List String)
    (other : Document → String → Node → σ → Decoding σ) (start : σ) : Decoder σ :=
  fun document node => do
    let (entries, closed) ← asEntries document node
    let state ← readFields fields other document entries ⟨start, []⟩
    if closed then do
      requireFields needed state.seen
      pure state.record
    else malformed

/-! ## Entries of any kind -/

/-- What a node denotes, as far as it matters for texts and lists of texts. -/
inductive Content where
  | null
  | text (value : String)
  | list (items : List Content)
  | other

def hasLocalTag (tag : Option String) : Bool :=
  tag.any isLocalTag

/-- What a node denotes.  `depth` is the number of collections that may still be entered. -/
def asContent : Nat → Decoder Content := fun depth document node => do
  match ← follow document node with
  | .scalar tag style text =>
    match scalarKind tag style text with
    | .text => pure (.text text)
    | .null => pure .null
    | .other => pure .other
    | .unrepresentable => malformed
  | .sequence tag items closed =>
    match depth with
    | 0 => malformed
    | depth + 1 => do
      if hasLocalTag tag then malformed
      else
        let values ← items.mapM (asContent depth document)
        if closed then pure (.list values) else malformed
  | .mapping tag entries closed =>
    match depth with
    | 0 => malformed
    | depth + 1 => do
      if hasLocalTag tag then malformed
      else
        entries.forM fun (key, value) => do
          let _ ← asContent depth document key
          let _ ← asContent depth document value
        if closed then pure .other else malformed
  | .void => pure .null
  | _ => malformed

def decode {α : Type} (decoder : Decoder α) (text : String) : Except DocumentFault α := do
  let document := readDocument text
  let (value, _) ← (decoder document document.root).run 0
  if document.alone then .ok value else .error .malformed

end HttpInspection.Yaml
