import HttpInspection.FileTree
import HttpInspection.Notice
import HttpInspection.Rule.Document
import HttpInspection.Rule.RuleSet

/-!
# Trees of rule files

The files below a directory are visited depth first, the entries of each directory in the order of
their names, so that the result does not depend on the order in which a directory is listed.  Of
rules with one identifier the first one visited is kept.  A file that gives no acceptable rule is
skipped.
-/

set_option autoImplicit false

namespace HttpInspection

def ruleExtension : String := "yaml"

/-- The part of a file name behind its last dot, unless the dot comes first. -/
def extension? (name : String) : Option String :=
  let chars := name.toList
  let back := (chars.reverse.takeWhile (· != '.')).reverse
  if back.length + 1 < chars.length then some (String.ofList back) else none

/-- What is met on a visit of a tree. -/
inductive Visit where
  | ignoredDirectory (path : String)
  | otherFile (path : String)
  | ruleFile (path : String) (bytes : List UInt8)
  deriving Repr, DecidableEq

def sortedByName {α : Type} (entries : List (String × α)) : List (String × α) :=
  entries.mergeSort fun a b => decide (a.1 ≤ b.1)

def visitFile (name path : String) (bytes : List UInt8) : Visit :=
  if extension? name = some ruleExtension then .ruleFile path bytes else .otherFile path

mutual

def FileNode.visits (ignored : List String) (name path : String) : FileNode → List Visit
  | .file bytes => [visitFile name path bytes]
  | .directory entries =>
    if ignored.contains name then [.ignoredDirectory path]
    else (sortedByName (visitsOfEntries ignored path entries)).flatMap Prod.snd

def visitsOfEntries (ignored : List String) (path : String) :
    List (String × FileNode) → List (String × List Visit)
  | [] => []
  | (name, node) :: rest =>
    (name, node.visits ignored name (joinPath path name)) :: visitsOfEntries ignored path rest

end

/-- What is met below a directory, which is itself never ignored. -/
def visitsBelow (ignored : List String) (path : String) (entries : List (String × FileNode)) :
    List Visit :=
  (sortedByName (visitsOfEntries ignored path entries)).flatMap Prod.snd

def readRuleFile (path : String) (bytes : List UInt8) : Except Failure Rule :=
  match FileTree.textOf bytes with
  | .error fault => .error (.ruleFile path fault.message)
  | .ok text =>
    match Rule.parse text with
    | .ok rule => .ok rule
    | .error fault => .error (.ruleFile path fault.message)

/-- The rule in a file. It is not validated. -/
def loadRuleFile (files : FileTree) (path : String) : Except Failure Rule :=
  match files.readBytes path with
  | .ok bytes => readRuleFile path bytes
  | .error fault => .error (.ruleFile path fault.message)

def RuleSet.addFile (set : RuleSet) (path : String) (bytes : List UInt8) :
    Except Failure RuleSet := do
  let rule ← readRuleFile path bytes
  match set.add rule with
  | .ok grown => .ok grown
  | .error fault => .error fault.failure

/-- The rules met so far and the number of files that were skipped. -/
structure Loaded where
  rules : RuleSet := {}
  skipped : Nat := 0

def Loaded.visit (loaded : Loaded) : Visit → Traced Loaded
  | .ignoredDirectory path => ⟨loaded, [.directoryIgnored path]⟩
  | .otherFile path => ⟨loaded, [.notARuleFile path]⟩
  | .ruleFile path bytes =>
    match loaded.rules.addFile path bytes with
    | .ok rules => ⟨{ loaded with rules }, [.ruleLoaded path]⟩
    | .error failure =>
      ⟨{ loaded with skipped := loaded.skipped + 1 }, [.ruleFileSkipped path failure]⟩

def Loaded.visitAll (loaded : Loaded) : List Visit → Traced Loaded
  | [] => ⟨loaded, []⟩
  | visit :: rest => do
    let loaded ← loaded.visit visit
    loaded.visitAll rest

/-- Where rules are loaded from: a directory, and the names of directories that are skipped. -/
structure RuleSource where
  directory : String
  ignored : List String := []
  deriving Repr, DecidableEq

namespace RuleSource

/-- The rules below the directory of a source.  Only a missing directory is a failure. -/
def load (source : RuleSource) (files : FileTree) : Traced (Except Failure RuleSet) :=
  match files.node source.directory with
  | .ok (.directory entries) => do
    let loaded ← Loaded.visitAll {} (visitsBelow source.ignored source.directory entries)
    Traced.notice (.rulesLoaded source.directory loaded.rules.size loaded.skipped)
    return .ok loaded.rules
  | _ => ⟨.error (.noRulesDirectory source.directory), []⟩

end RuleSource

end HttpInspection
