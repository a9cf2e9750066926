import HttpInspection.Settings.Basic
import HttpInspection.Toml.Document

/-!
# Settings documents

A document gives some of the settings; the others keep their defaults, and names that are not known
are passed over.  The first fault in the order of the document is the one that is reported.
-/

set_option autoImplicit false

namespace HttpInspection

namespace Toml

abbrev Decoder (α : Type) := Value → Except DocumentFault α

def asText : Decoder String
  | .text value => .ok value
  | _ => .error .malformed

def asBool : Decoder Bool
  | .bool value => .ok value
  | _ => .error .malformed

def asNat : Decoder Nat
  | .integer n => if 0 ≤ n then .ok n.toNat else .error .malformed
  | _ => .error .malformed

def asTexts : Decoder (List String)
  | .array items => items.mapM asText
  | _ => .error .malformed

def isVoid : Value → Bool
  | .array items => items.isEmpty
  | .inline entries | .table entries => entries.isEmpty
  | _ => false

/-- One of several names, written as a text, or as a table with an empty value behind the name. -/
def asVariant {α : Type} (variants : List (String × α)) : Decoder α
  | .text name => choose name
  | .inline [(name, value)] => chooseVoid name value
  | .table ((name, value) :: _) => chooseVoid name value
  | _ => .error .malformed
where
  choose (name : String) : Except DocumentFault α :=
    match variants.lookup name with
    | some value => .ok value
    | none => .error (.unknownVariant name (variants.map Prod.fst))
  chooseVoid (name : String) (value : Value) : Except DocumentFault α := do
    let chosen ← choose name
    if isVoid value then .ok chosen else .error .malformed

/-- The named values of a record: the entries of a table, or the items of an array, which follow the
order of the names.  A time has none. -/
def namedValues (names : List String) : Decoder (List (String × Value))
  | .inline entries | .table entries => .ok entries
  | .array items => .ok (names.zip items)
  | .time => .ok []
  | _ => .error .malformed

/-- A record that is built by taking one named value after the other. -/
def asRecord {α : Type} (names : List String) (default : α)
    (take : α → String → Value → Except DocumentFault α) : Decoder α := fun value => do
  (← namedValues names value).foldlM (fun record entry => take record entry.1 entry.2) default

end Toml

open Toml (Decoder Value)

namespace LogSettings

def take (settings : LogSettings) (name : String) (value : Value) :
    Except DocumentFault LogSettings := do
  match name with
  | "enabled" => return { settings with enabled := ← Toml.asBool value }
  | "max_entries" => return { settings with maxEntries := ← Toml.asNat value }
  | "file_path" => return { settings with filePath := some (← Toml.asText value) }
  | "include_raw" => return { settings with includeRaw := ← Toml.asBool value }
  | _ => return settings

def ofToml : Decoder LogSettings :=
  Toml.asRecord ["enabled", "max_entries", "file_path", "include_raw"] {} take

end LogSettings

namespace OperationMode

def ofToml : Decoder OperationMode := fun value => do
  match parse (← Toml.asText value) with
  | .ok mode => .ok mode
  | .error fault => .error (.word fault)

end OperationMode

namespace InspectionSettings

def take (settings : InspectionSettings) (name : String) (value : Value) :
    Except DocumentFault InspectionSettings := do
  match name with
  | "mode" => return { settings with mode := ← OperationMode.ofToml value }
  | "rules_directory" => return { settings with rulesDirectory := ← Toml.asText value }
  | "ignore_rules_directories" => return { settings with ignoredDirectories := ← Toml.asTexts value }
  | "user_agent_blacklist_path" =>
    return { settings with blacklistPath := some (← Toml.asText value) }
  | "forbidden_page_path" =>
    return { settings with forbiddenPagePath := some (← Toml.asText value) }
  | "exchange_log" => return { settings with exchangeLog := ← LogSettings.ofToml value }
  | _ => return settings

def ofToml : Decoder InspectionSettings :=
  Toml.asRecord
    ["mode", "rules_directory", "ignore_rules_directories", "user_agent_blacklist_path",
      "forbidden_page_path", "exchange_log"] {} take

end InspectionSettings

namespace Identity

def take (identity : Identity) (name : String) (value : Value) :
    Except DocumentFault Identity := do
  match name with
  | "id" => return { identity with id := ← Toml.asText value }
  | "name" => return { identity with name := some (← Toml.asText value) }
  | _ => return identity

def ofToml : Decoder Identity :=
  Toml.asRecord ["id", "name"] {} take

end Identity

namespace ReportSettings

def levels : List (String × NoticeLevel) :=
  [NoticeLevel.trace, .debug, .info, .warn, .error].map fun level => (level.word, level)

def formats : List (String × ReportFormat) :=
  [ReportFormat.json, .pretty, .compact].map fun format => (format.word, format)

def take (settings : ReportSettings) (name : String) (value : Value) :
    Except DocumentFault ReportSettings := do
  match name with
  | "level" => return { settings with level := ← Toml.asVariant levels value }
  | "format" => return { settings with format := ← Toml.asVariant formats value }
  | _ => return settings

def ofToml : Decoder ReportSettings :=
  Toml.asRecord ["level", "format"] {} take

end ReportSettings

namespace AgentSettings

def take (settings : AgentSettings) (name : String) (value : Value) :
    Except DocumentFault AgentSettings := do
  match name with
  | "agent" => return { settings with agent := ← Identity.ofToml value }
  | "logging" => return { settings with logging := ← ReportSettings.ofToml value }
  | "waf" => return { settings with waf := ← InspectionSettings.ofToml value }
  | _ => return settings

def ofToml : Decoder AgentSettings :=
  Toml.asRecord ["agent", "logging", "waf"] {} take

def parse (text : String) : Except DocumentFault AgentSettings := do
  ofToml (.table (← Toml.read text))

end AgentSettings

end HttpInspection
