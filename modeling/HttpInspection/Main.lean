import HttpInspection.CommandLine

/-!
# The program

Reads the files that a run needs, runs, and writes what the run says.
-/

set_option autoImplicit false

namespace HttpInspection

def namesOfPath (working : List String) (path : String) : List String :=
  (pathComponents path).foldl
    (fun names component =>
      if component = "" ∨ component = "." then names
      else if component = ".." then names.dropLast
      else names ++ [component])
    (if path.toList.head?.any (· == '/') then [] else working)

def pathOfNames (names : List String) : String :=
  "/" ++ "/".intercalate names

/-- What stands at names on the disk; a directory with everything below it if it is to be entered. -/
partial def readNode (enter : Bool) (names : List String) : IO (Option FileNode) := do
  let path := pathOfNames names
  try
    let bytes ← IO.FS.readBinFile path
    return some (.file bytes.data.toList)
  catch _ =>
    try
      let working ← IO.currentDir
      let entries ← (working / path).readDir
      let nodes ← (if enter then entries.toList else []).filterMapM fun entry => do
        let node ← readNode enter (names ++ [entry.fileName])
        return node.map fun node => (entry.fileName, node)
      return some (.directory nodes)
    catch _ => return none

def takeFromDisk (enter : Bool) (files : FileTree) (path : String) : IO FileTree := do
  let names := namesOfPath files.workingDirectory path
  match ← readNode enter names with
  | some node => return { files with root := node.insert files.root names }
  | none => return files

def emptyWorkingTree : IO FileTree := do
  let names := namesOfPath [] (toString (← IO.currentDir))
  return ⟨(FileNode.directory []).insert (.directory []) names, names⟩

end HttpInspection

open HttpInspection in
def main (arguments : List String) : IO UInt32 := do
  let files ← emptyWorkingTree
  let files ← takeFromDisk false files (arguments.head?.getD defaultSettingsPath)
  let files ← match settingsOfArguments files arguments with
    | .ok settings => takeFromDisk true files settings.waf.rulesDirectory
    | .error _ => pure files
  let completion := runProgram files arguments
  for line in completion.output do
    IO.println line
  IO.eprint completion.complaint
  return completion.code.toUInt32
