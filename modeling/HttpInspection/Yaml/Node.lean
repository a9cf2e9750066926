import HttpInspection.Yaml.Scan

/-!
# Nodes of YAML

A document as a tree, read as far as its text is well formed.  A collection that was open where the
form is broken is marked as not closed, and a node that was due there is `broken`.  An alias refers
to a node by a number; the numbers are given in the order in which anchors begin.
-/

set_option autoImplicit false

namespace HttpInspection.Yaml

inductive Node where
  | scalar (tag : Option String) (style : ScalarStyle) (text : String)
  | sequence (tag : Option String) (items : List Node) (closed : Bool)
  | mapping (tag : Option String) (entries : List (Node × Node)) (closed : Bool)
  | alias (number : Nat)
  /-- A stream without a document. -/
  | void
  /-- No node can be read here. -/
  | broken

/-- The node that stands where nothing is written. -/
def Node.empty : Node :=
  .scalar none .plain ""

/-- A node with an anchor: the count of anchors before it, and the number of the anchor.  Of several
nodes with one number, the last to begin is the one that aliases refer to. -/
structure Anchored where
  order : Nat
  number : Nat
  node : Node

structure Reader where
  scanner : Scanner
  failed : Bool := false
  handles : List (List Char × List Char) := []
  names : List (List Char × Nat) := []
  opened : Nat := 0
  anchored : List Anchored := []

/-- The handles that need no directive. -/
def standardHandles : List (List Char × List Char) :=
  [(['!'], ['!']), (['!', '!'], "tag:yaml.org,2002:".toList)]

namespace Reader

def fail (r : Reader) : Reader :=
  { r with failed := true }

def peek (r : Reader) : Option (Token × Reader) :=
  if r.failed then none
  else r.scanner.peek.map fun (token, scanner) => (token, { r with scanner })

def drop (r : Reader) : Reader :=
  { r with scanner := r.scanner.drop }

def dropPeek (r : Reader) : Option (Token × Reader) :=
  r.drop.peek

def setName (name : List Char) (number : Nat) : List (List Char × Nat) → List (List Char × Nat)
  | [] => [(name, number)]
  | (other, old) :: rest =>
    if other = name then (other, number) :: rest else (other, old) :: setName name number rest

/-- Begins a node with an anchor: its order and its number.  The number is the count of the names
that are known. -/
def openAnchor (r : Reader) (name : List Char) : (Nat × Nat) × Reader :=
  let number := r.names.length
  ((r.opened, number),
    { r with names := setName name number r.names, opened := r.opened + 1 })

def closeAnchor (r : Reader) (node : Node) : Option (Nat × Nat) → Reader
  | none => r
  | some (order, number) => { r with anchored := ⟨order, number, node⟩ :: r.anchored }

/-- The full form of a tag.  An unknown handle is an error. -/
def resolveTag (r : Reader) (handle suffix : List Char) : Option String :=
  if handle.isEmpty then some (String.ofList suffix)
  else (r.handles.lookup handle).map fun address => String.ofList (address ++ suffix)

end Reader

structure Properties where
  anchor : Option (List Char) := none
  tag : Option (List Char × List Char) := none

/-- The anchor and the tag of a node, in either order, and the token after them. -/
def readProperties (r : Reader) : Option (Properties × Token × Reader) := do
  let (token, r) ← r.peek
  match token with
  | .anchor name =>
    let (token, r) ← r.dropPeek
    match token with
    | .tag handle suffix =>
      let (token, r) ← r.dropPeek
      some ({ anchor := some name, tag := some (handle, suffix) }, token, r)
    | token => some ({ anchor := some name }, token, r)
  | .tag handle suffix =>
    let (token, r) ← r.dropPeek
    match token with
    | .anchor name =>
      let (token, r) ← r.dropPeek
      some ({ anchor := some name, tag := some (handle, suffix) }, token, r)
    | token => some ({ tag := some (handle, suffix) }, token, r)
  | token => some ({}, token, r)

/-- The tag of a node, if it has one; nothing if its handle is unknown. -/
def Properties.resolvedTag (properties : Properties) (r : Reader) : Option (Option String) :=
  match properties.tag with
  | none => some none
  | some (handle, suffix) => (r.resolveTag handle suffix).map some

/-- Whether a node is expected before the end of an entry of a block mapping. -/
def endsBlockNode (token : Token) : Bool :=
  token == .key || token == .value || token == .blockEnd

/-- The tag of a scalar that has content: a lone exclamation mark says nothing. -/
def scalarTag (tag : Option String) : Option String :=
  tag.filter (· != "!")

mutual

/-- A node.  `block` admits block collections, and `indentless` entries that are no deeper than the
mapping around them; `fuel` bounds the number of steps here and below. -/
def readNode : Nat → Bool → Bool → Reader → Node × Reader
  | 0, _, _, r => (.broken, r.fail)
  | fuel + 1, block, indentless, r =>
    match r.peek with
    | none => (.broken, r.fail)
    | some (.alias name, r) =>
      match r.names.lookup name with
      | some number => (.alias number, r.drop)
      | none => (.broken, r.fail)
    | some (_, r) =>
      match readProperties r with
      | none => (.broken, r.fail)
      | some (properties, token, r) =>
        match properties.resolvedTag r with
        | none => (.broken, r.fail)
        | some tag =>
          let (mark, r) :=
            match properties.anchor with
            | some name =>
              let (mark, r) := r.openAnchor name
              (some mark, r)
            | none => (none, r)
          let (node, r) :=
            match token with
            | .scalar style text =>
              (Node.scalar (scalarTag tag) style (String.ofList text), r.drop)
            | .flowSequenceStart =>
              let (items, closed, r) := readFlowItems fuel true r.drop
              (.sequence tag items closed, r)
            | .flowMappingStart =>
              let (entries, closed, r) := readFlowEntries fuel true r.drop
              (.mapping tag entries closed, r)
            | token =>
              if indentless && token == Token.blockEntry then
                let (items, closed, r) := readIndentlessItems fuel r
                (.sequence tag items closed, r)
              else if block && token == Token.blockSequenceStart then
                let (items, closed, r) := readBlockItems fuel r.drop
                (.sequence tag items closed, r)
              else if block && token == Token.blockMappingStart then
                let (entries, closed, r) := readBlockEntries fuel r.drop
                (.mapping tag entries closed, r)
              else if properties.anchor.isSome || properties.tag.isSome then
                (.scalar tag .plain "", r)
              else (.broken, r.fail)
          (node, r.closeAnchor node mark)

def readBlockItems : Nat → Reader → List Node × Bool × Reader
  | 0, r => ([], false, r.fail)
  | fuel + 1, r =>
    match r.peek with
    | some (.blockEntry, r) =>
      match r.dropPeek with
      | none => ([], false, r.fail)
      | some (token, r) =>
        let (item, r) :=
          if token == .blockEntry || token == .blockEnd then (Node.empty, r)
          else readNode fuel true false r
        if r.failed then ([item], false, r)
        else
          let (items, closed, r) := readBlockItems fuel r
          (item :: items, closed, r)
    | some (.blockEnd, r) => ([], true, r.drop)
    | _ => ([], false, r.fail)

/-- The entries of a sequence that is no deeper than the mapping around it. -/
def readIndentlessItems : Nat → Reader → List Node × Bool × Reader
  | 0, r => ([], false, r.fail)
  | fuel + 1, r =>
    match r.peek with
    | none => ([], false, r.fail)
    | some (.blockEntry, r) =>
      match r.dropPeek with
      | none => ([], false, r.fail)
      | some (token, r) =>
        let (item, r) :=
          if token == .blockEntry || endsBlockNode token then (Node.empty, r)
          else readNode fuel true false r
        if r.failed then ([item], false, r)
        else
          let (items, closed, r) := readIndentlessItems fuel r
          (item :: items, closed, r)
    | some (_, r) => ([], true, r)

def readBlockEntries : Nat → Reader → List (Node × Node) × Bool × Reader
  | 0, r => ([], false, r.fail)
  | fuel + 1, r =>
    match r.peek with
    | some (.key, r) =>
      match r.dropPeek with
      | none => ([], false, r.fail)
      | some (token, r) =>
        let (key, r) :=
          if endsBlockNode token then (Node.empty, r) else readNode fuel true true r
        let (value, r) := readBlockValue fuel r
        if r.failed then ([(key, value)], false, r)
        else
          let (entries, closed, r) := readBlockEntries fuel r
          ((key, value) :: entries, closed, r)
    | some (.blockEnd, r) => ([], true, r.drop)
    | _ => ([], false, r.fail)

def readBlockValue : Nat → Reader → Node × Reader
  | 0, r => (.broken, r.fail)
  | fuel + 1, r =>
    match r.peek with
    | none => (.broken, r.fail)
    | some (.value, r) =>
      match r.dropPeek with
      | none => (.broken, r.fail)
      | some (token, r) =>
        if endsBlockNode token then (.empty, r) else readNode fuel true true r
    | some (_, r) => (.empty, r)

def readFlowItems : Nat → Bool → Reader → List Node × Bool × Reader
  | 0, _, r => ([], false, r.fail)
  | fuel + 1, isFirst, r =>
    match r.peek with
    | none => ([], false, r.fail)
    | some (.flowSequenceEnd, r) => ([], true, r.drop)
    | some (token, r) =>
      match if isFirst then some (token, r) else if token == .flowEntry then r.dropPeek else none with
      | none => ([], false, r.fail)
      | some (.flowSequenceEnd, r) => ([], true, r.drop)
      | some (token, r) =>
        let (item, r) :=
          if token == .key then readFlowPair fuel r.drop else readNode fuel false false r
        if r.failed then ([item], false, r)
        else
          let (items, closed, r) := readFlowItems fuel false r
          (item :: items, closed, r)

/-- A mapping of one entry in a flow sequence, behind the token of its key. -/
def readFlowPair : Nat → Reader → Node × Reader
  | 0, r => (.broken, r.fail)
  | fuel + 1, r =>
    match r.peek with
    | none => (.mapping none [] false, r.fail)
    | some (token, r) =>
      let (key, r) :=
        if token == .value || token == .flowEntry || token == .flowSequenceEnd then
          (Node.empty, r.drop)
        else readNode fuel false false r
      let (value, r) := readFlowValue fuel .flowSequenceEnd r
      (.mapping none [(key, value)] (!r.failed), r)

def readFlowValue : Nat → Token → Reader → Node × Reader
  | 0, _, r => (.broken, r.fail)
  | fuel + 1, last, r =>
    match r.peek with
    | none => (.broken, r.fail)
    | some (.value, r) =>
      match r.dropPeek with
      | none => (.broken, r.fail)
      | some (token, r) =>
        if token == .flowEntry || token == last then (.empty, r) else readNode fuel false false r
    | some (_, r) => (.empty, r)

def readFlowEntries : Nat → Bool → Reader → List (Node × Node) × Bool × Reader
  | 0, _, r => ([], false, r.fail)
  | fuel + 1, isFirst, r =>
    match r.peek with
    | none => ([], false, r.fail)
    | some (.flowMappingEnd, r) => ([], true, r.drop)
    | some (token, r) =>
      match if isFirst then some (token, r) else if token == .flowEntry then r.dropPeek else none with
      | none => ([], false, r.fail)
      | some (.flowMappingEnd, r) => ([], true, r.drop)
      | some (.key, r) =>
        match r.dropPeek with
        | none => ([], false, r.fail)
        | some (token, r) =>
          let (key, r) :=
            if token == .value || token == .flowEntry || token == .flowMappingEnd then
              (Node.empty, r)
            else readNode fuel false false r
          let (value, r) := readFlowValue fuel .flowMappingEnd r
          if r.failed then ([(key, value)], false, r)
          else
            let (entries, closed, r) := readFlowEntries fuel false r
            ((key, value) :: entries, closed, r)
      | some (_, r) =>
        let (key, r) := readNode fuel false false r
        match r.peek with
        | none => ([(key, .broken)], false, r.fail)
        | some (_, r) =>
          let (entries, closed, r) := readFlowEntries fuel false r
          ((key, .empty) :: entries, closed, r)

end

/-! ## Documents -/

/-- The first document of a stream: its root, the nodes with anchors, and whether the stream is well
formed and has no second document. -/
structure Document where
  root : Node
  anchored : List Anchored := []
  alone : Bool := false

def isKnownVersion (major minor : Nat) : Bool :=
  major == 1 && (minor == 1 || minor == 2)

/-- The directives in front of a document; each may be given once. -/
def readDirectives : Nat → Bool → Reader → Option (Token × Reader)
  | 0, _, _ => none
  | fuel + 1, versioned, r => do
    let (token, r) ← r.peek
    match token with
    | .versionDirective major minor =>
      if versioned || !isKnownVersion major minor then none else readDirectives fuel true r.drop
    | .tagDirective handle uri =>
      if (r.handles.lookup handle).isSome then none
      else readDirectives fuel versioned { r.drop with handles := r.handles ++ [(handle, uri)] }
    | token => some (token, { r with handles := r.handles ++ standardHandles })

def skipDocumentEnds : Nat → Reader → Option (Token × Reader)
  | 0, _ => none
  | fuel + 1, r => do
    let (token, r) ← r.peek
    if token == .documentEnd then skipDocumentEnds fuel r.drop else some (token, r)

/-- Whether nothing but the end of the stream follows a document. -/
def endsStream (fuel : Nat) (r : Reader) : Bool :=
  match skipDocumentEnds fuel r with
  | some (token, _) => token == .streamEnd
  | none => false

/-- Whether a token means that a document between two marks is empty. -/
def endsDocument (token : Token) : Bool :=
  match token with
  | .versionDirective _ _ | .tagDirective _ _ | .documentStart | .documentEnd | .streamEnd => true
  | _ => false

def readContent (fuel : Nat) (r : Reader) : Node × Reader :=
  match r.peek with
  | none => (.broken, r.fail)
  | some (token, r) => if endsDocument token then (.empty, r) else readNode fuel true false r

def readRoot (fuel : Nat) (r : Reader) : Node × Reader :=
  match r.peek with
  | none => (.broken, r.fail)
  | some (.streamEnd, r) => (.void, r)
  | some (first, r) =>
    match readDirectives fuel false r with
    | none => (.broken, r.fail)
    | some (token, r) =>
      if token == .documentStart then readContent fuel r.drop
      else
        match first with
        | .versionDirective _ _ | .tagDirective _ _ => (.broken, r.fail)
        | _ => readNode fuel true false r

def readDocument (text : String) : Document :=
  let chars := text.toList
  let fuel := 4 * chars.length + 16
  match Scanner.ofText chars with
  | none => { root := .broken }
  | some scanner =>
    match Reader.peek { scanner } with
    | none => { root := .broken }
    | some (_, r) =>
      let (root, r) := readRoot fuel r.drop
      { root, anchored := r.anchored, alone := !r.failed && endsStream fuel r }

def Document.find? (document : Document) (number : Nat) : Option Node :=
  let candidates := document.anchored.filter fun entry => entry.number == number
  (candidates.foldl
    (fun (best : Option Anchored) entry =>
      match best with
      | some best => if best.order < entry.order then some entry else some best
      | none => some entry)
    none).map Anchored.node

end HttpInspection.Yaml
