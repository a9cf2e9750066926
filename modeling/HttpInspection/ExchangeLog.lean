import HttpInspection.FileTree
import HttpInspection.LogEntry

/-!
# The exchange log

The latest entries in memory and, if a file is set, every entry as a line of that file.  A file that
cannot be written does not keep an entry out of memory.
-/

set_option autoImplicit false

namespace HttpInspection

structure LogSettings where
  enabled : Bool := true
  maxEntries : Nat := 10000
  filePath : Option String := none
  includeRaw : Bool := true
  deriving Repr, DecidableEq

namespace LogSettings

/-- The number of entries that are kept in memory, at least one. -/
def capacity (settings : LogSettings) : Nat :=
  max settings.maxEntries 1

def shape (settings : LogSettings) (entry : LogEntry) : LogEntry :=
  if settings.includeRaw then entry else entry.withoutRaw

def fields : Json.Fields :=
  [Json.field "enabled" Json.asBool,
   Json.field "max_entries" Json.asNat,
   Json.field "file_path" (Json.asOption Json.asText),
   Json.field "include_raw" Json.asBool]

/-- The settings that a record describes; what is left out has its default. -/
def ofJson : Json.Decoder LogSettings := fun value => do
  let record ← value.fields fields 0
  let default : LogSettings := {}
  let enabled ← Json.optional record "enabled" default.enabled Json.asBool
  let maxEntries ← Json.optional record "max_entries" default.maxEntries Json.asNat
  let filePath ← Json.optional record "file_path" default.filePath (Json.asOption Json.asText)
  let includeRaw ← Json.optional record "include_raw" default.includeRaw Json.asBool
  return { enabled, maxEntries, filePath, includeRaw }

end LogSettings

/-- The log: its settings and its entries, oldest first. -/
structure ExchangeLog where
  settings : LogSettings := {}
  entries : List LogEntry := []
  deriving Repr, DecidableEq

/-- Entries of which the oldest have given way until there is room for one more. -/
def makeRoom (capacity : Nat) : List LogEntry → List LogEntry
  | [] => []
  | oldest :: rest =>
    if capacity ≤ rest.length + 1 then makeRoom capacity rest else oldest :: rest

namespace ExchangeLog

/-- Writes an entry at the end of the file, if one is set. -/
def appendToFile (log : ExchangeLog) (files : FileTree) (entry : LogEntry) :
    Except Failure FileTree :=
  match log.settings.filePath with
  | none => .ok files
  | some path =>
    match files.append path (bytesOf (entry.text ++ "\n")) with
    | .ok files => .ok files
    | .error fault => .error (.logging s!"{path}: {fault.message}")

/-- The log with one more entry in memory, the oldest ones giving way. -/
def remember (log : ExchangeLog) (entry : LogEntry) : ExchangeLog :=
  { log with entries := makeRoom log.settings.capacity log.entries ++ [entry] }

/-- Logs an entry.  The failure is that of the file. -/
def log (log : ExchangeLog) (files : FileTree) (entry : LogEntry) :
    Except Failure Unit × ExchangeLog × FileTree :=
  if log.settings.enabled then
    let entry := log.settings.shape entry
    match log.appendToFile files entry with
    | .ok files => (.ok (), log.remember entry, files)
    | .error failure => (.error failure, log.remember entry, files)
  else (.ok (), log, files)

/-- The newest entries, newest first. -/
def recent (log : ExchangeLog) (count : Nat) : List LogEntry :=
  log.entries.reverse.take count

def withRule (log : ExchangeLog) (ruleId : String) : List LogEntry :=
  log.entries.filter fun entry => entry.hasRule ruleId

def count (log : ExchangeLog) : Nat :=
  log.entries.length

def clear (log : ExchangeLog) : ExchangeLog :=
  { log with entries := [] }

end ExchangeLog

end HttpInspection
