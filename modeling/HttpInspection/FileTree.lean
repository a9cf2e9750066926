import HttpInspection.Text.Split
import HttpInspection.Text.Utf8

/-!
# Files

Files and directories as a tree, with a working directory from which relative paths lead.  A path is
followed component by component; only a directory can be passed through.
-/

set_option autoImplicit false

namespace HttpInspection

inductive FileNode where
  | file (bytes : List UInt8)
  | directory (entries : List (String × FileNode))

inductive FileFault where
  | missing
  | notADirectory
  | isADirectory
  | nameTooLong
  | badName
  | notText
  deriving Repr, DecidableEq

def FileFault.message : FileFault → String
  | missing => "No such file or directory (os error 2)"
  | notADirectory => "Not a directory (os error 20)"
  | isADirectory => "Is a directory (os error 21)"
  | nameTooLong => "File name too long (os error 36)"
  | badName => "file name contained an unexpected NUL byte"
  | notText => "stream did not contain valid UTF-8"

namespace FileNode

def isDirectory : FileNode → Bool
  | file _ => false
  | directory _ => true

def find? : FileNode → List String → Option FileNode
  | node, [] => some node
  | file _, _ :: _ => none
  | directory entries, name :: rest =>
    match entries.lookup name with
    | some node => node.find? rest
    | none => none

/-- Entries in which a name has a new node, at the place of its old one if there is one. -/
def setEntry (name : String) (node : FileNode) :
    List (String × FileNode) → List (String × FileNode)
  | [] => [(name, node)]
  | (other, old) :: rest =>
    if other = name then (name, node) :: rest else (other, old) :: setEntry name node rest

/-- A tree in which names lead to a new node, with the directories on the way. -/
def insert (node : FileNode) : FileNode → List String → FileNode
  | _, [] => node
  | file bytes, _ :: _ => file bytes
  | directory entries, name :: rest =>
    directory (setEntry name (insert node ((entries.lookup name).getD (directory [])) rest) entries)

def erase : FileNode → List String → FileNode
  | node, [] => node
  | file bytes, _ :: _ => file bytes
  | directory entries, [name] => directory (entries.filter fun entry => entry.1 != name)
  | directory entries, name :: rest =>
    match entries.lookup name with
    | some node => directory (setEntry name (node.erase rest) entries)
    | none => directory entries

end FileNode

/-- A tree of files and the names that lead to the working directory. -/
structure FileTree where
  root : FileNode := .directory []
  workingDirectory : List String := []

def pathComponents (path : String) : List String :=
  (splitAtEvery (· == '/') path.toList).map String.ofList

def joinPath (directory name : String) : String :=
  if directory.toList.getLast?.any (· == '/') then directory ++ name else directory ++ "/" ++ name

def fileNameLimit : Nat := 255

namespace FileTree

/-- Follows one component of a path from the directory that names lead to. -/
def follow (tree : FileTree) (here : List String) (component : String) :
    Except FileFault (List String) :=
  match tree.root.find? here with
  | none => .error .missing
  | some (.file _) => .error .notADirectory
  | some (.directory entries) =>
    if component = "" ∨ component = "." then .ok here
    else if component = ".." then .ok here.dropLast
    else if fileNameLimit < (bytesOf component).length then .error .nameTooLong
    else if (entries.lookup component).isSome then .ok (here ++ [component])
    else .error .missing

def startOf (tree : FileTree) (path : String) : List String :=
  if path.toList.head?.any (· == '/') then [] else tree.workingDirectory

def pathFault? (path : String) : Option FileFault :=
  if path.toList.any (·.toNat == 0) then some .badName
  else if path.isEmpty then some .missing
  else none

def resolve (tree : FileTree) (path : String) : Except FileFault (List String) :=
  match pathFault? path with
  | some fault => .error fault
  | none => (pathComponents path).foldlM tree.follow (tree.startOf path)

def node (tree : FileTree) (path : String) : Except FileFault FileNode := do
  match tree.root.find? (← tree.resolve path) with
  | some node => .ok node
  | none => .error .missing

def pathExists (tree : FileTree) (path : String) : Bool :=
  (tree.node path).isOk

def isDirectory (tree : FileTree) (path : String) : Bool :=
  match tree.node path with
  | .ok node => node.isDirectory
  | .error _ => false

def isFile (tree : FileTree) (path : String) : Bool :=
  match tree.node path with
  | .ok node => !node.isDirectory
  | .error _ => false

def readBytes (tree : FileTree) (path : String) : Except FileFault (List UInt8) := do
  match ← tree.node path with
  | .file bytes => .ok bytes
  | .directory _ => .error .isADirectory

def textOf (bytes : List UInt8) : Except FileFault String :=
  match strictText? bytes with
  | some text => .ok text
  | none => .error .notText

def readText (tree : FileTree) (path : String) : Except FileFault String := do
  textOf (← tree.readBytes path)

/-- The names that a path leads to when its last component is a file that may be created. -/
def resolveNew (tree : FileTree) (path : String) : Except FileFault (List String) :=
  match pathFault? path with
  | some fault => .error fault
  | none =>
    let components := pathComponents path
    let named := (components.reverse.dropWhile (· == "")).reverse
    match named.getLast? with
    | none => .error .isADirectory
    | some last => do
      let parent ← named.dropLast.foldlM tree.follow (tree.startOf path)
      match tree.root.find? parent with
      | some (.directory _) =>
        if named.length < components.length ∨ last = "." ∨ last = ".." then .error .isADirectory
        else if fileNameLimit < (bytesOf last).length then .error .nameTooLong
        else .ok (parent ++ [last])
      | _ => .error .notADirectory

/-- The tree after bytes were written at the end of a file, which is created if it is missing. -/
def append (tree : FileTree) (path : String) (bytes : List UInt8) : Except FileFault FileTree := do
  let names ← tree.resolveNew path
  match tree.root.find? names with
  | some (.directory _) => .error .isADirectory
  | some (.file old) => .ok { tree with root := (FileNode.file (old ++ bytes)).insert tree.root names }
  | none => .ok { tree with root := (FileNode.file bytes).insert tree.root names }

/-- The names below the directory of some names to which a relative path leads. -/
def namesBelow (base : List String) (path : String) : List String :=
  base ++ (pathComponents path).filter fun component => component != "" && component != "."

/-- The tree with a file below a directory, and the directories on the way to it; unchanged if a
directory has its name. -/
def putFile (tree : FileTree) (base : List String) (path : String) (bytes : List UInt8) : FileTree :=
  let names := namesBelow base path
  match tree.root.find? names with
  | some (.directory _) => tree
  | _ => { tree with root := (FileNode.file bytes).insert tree.root names }

/-- The tree with a directory below a directory; unchanged if its name is taken. -/
def putDirectory (tree : FileTree) (base : List String) (path : String) : FileTree :=
  let names := namesBelow base path
  match tree.root.find? names with
  | some _ => tree
  | none => { tree with root := (FileNode.directory []).insert tree.root names }

def remove (tree : FileTree) (base : List String) (path : String) : FileTree :=
  { tree with root := tree.root.erase (namesBelow base path) }

end FileTree

end HttpInspection
