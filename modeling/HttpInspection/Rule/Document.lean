import HttpInspection.Rule.Basic
import HttpInspection.Yaml.Record

/-!
# Rules in YAML

The document of a rule.  The searches of headers, parameters and bodies stand among the other entries
of their records, and there a text has to denote a text: a number or a truth value is refused.
-/

set_option autoImplicit false

namespace HttpInspection

open Yaml

def asEncodings : Decoder (Option (List Encoding)) :=
  asOption (asList (asWord Encoding.parse))

def asSearchMode : Decoder SearchMode :=
  asRecord
    [field "match" asText fun literal mode => { mode with literal },
     field "regex" asText fun pattern mode => { mode with pattern },
     field "encodings" asEncodings fun encodings mode => { mode with encodings }]
    [] ignoreOther {}

/-! ## Searches among other entries -/

def contentText : Content → Decoding String
  | .text value => pure value
  | _ => malformed

def contentEncoding (content : Content) : Decoding Encoding := do
  match Encoding.parse (← contentText content) with
  | .ok encoding => pure encoding
  | .error fault => throw (.word fault)

def contentEncodings : Content → Decoding (Option (List Encoding))
  | .null => pure none
  | .list items => return some (← items.mapM contentEncoding)
  | _ => malformed

/-- The search that consists of entries; what is no part of a search is passed over. -/
def searchModeOf : List (String × Content) → List String → SearchMode → Decoding SearchMode
  | [], _, mode => pure mode
  | (name, content) :: rest, seen, mode =>
    if !(["match", "regex", "encodings"].contains name) then searchModeOf rest seen mode
    else if seen.contains name then malformed
    else do
      let mode ←
        if name = "match" then do
          let literal ← contentText content
          pure { mode with literal }
        else if name = "regex" then do
          let pattern ← contentText content
          pure { mode with pattern }
        else do
          let encodings ← contentEncodings content
          pure { mode with encodings }
      searchModeOf rest (name :: seen) mode

/-- A record with a search among its entries: its own fields, and its other entries in order. -/
structure Mixed (σ : Type) where
  own : σ
  entries : List (String × Content) := []

/-- How deep collections may be nested in an entry: four are open around it. -/
def entryDepth : Nat := depthLimit - 4

def takeEntry {σ : Type} (document : Document) (name : String) (value : Node) (record : Mixed σ) :
    Decoding (Mixed σ) := do
  let content ← asContent entryDepth document value
  pure { record with entries := record.entries ++ [(name, content)] }

def asMixed {σ : Type} (fields : List (RecordField (Mixed σ))) (needed : List String) (start : σ) :
    Decoder (σ × SearchMode) := fun document node => do
  let record ← asRecord fields needed takeEntry { own := start } document node
  let mode ← searchModeOf record.entries [] {}
  pure (record.own, mode)

def asNamed : Decoder (String × SearchMode) :=
  asMixed [field "name" asText fun own record => { record with own }] ["name"] ""

def asHeaderMatcher : Decoder HeaderMatcher := fun document node => do
  let (name, mode) ← asNamed document node
  pure { name, mode }

def asParameterMatcher : Decoder ParameterMatcher := fun document node => do
  let (name, mode) ← asNamed document node
  pure { name, mode }

def asBodyMatcher : Decoder BodyMatcher := fun document node => do
  let digest (name : String) (put : Option String → BodyMatcher → BodyMatcher) :
      RecordField (Mixed BodyMatcher) :=
    field name (asOption asText) fun sum record => { record with own := put sum record.own }
  let (matcher, mode) ←
    asMixed
      [digest "md5sum" fun md5sum matcher => { matcher with md5sum },
       digest "sha256sum" fun sha256sum matcher => { matcher with sha256sum }]
      [] {} document node
  pure { matcher with mode }

/-! ## Rules -/

/-- An action, where a blank word stands for none. -/
def asAction : Decoder (Option Action) := fun document node => do
  match Action.parseOptional (← asOption asText document node) with
  | .ok action => pure action
  | .error fault => throw (.word fault)

def asRuleInfo : Decoder RuleInfo :=
  asRecord
    [field "name" asText fun name info => { info with name },
     field "description" asText fun description info => { info with description },
     field "severity" (asWord Severity.parse) fun severity info => { info with severity },
     field "classification" asText fun classification info => { info with classification },
     field "action" asAction fun action info => { info with action },
     field "encodings" asEncodings fun encodings info => { info with encodings }]
    ["severity"] ignoreOther { severity := .low }

def asRequestMatchers : Decoder RequestMatchers :=
  asRecord
    [field "method" (asOption asSearchMode) fun method matchers => { matchers with method },
     field "url" (asList asSearchMode) fun url matchers => { matchers with url },
     field "headers" (asList asHeaderMatcher) fun headers matchers => { matchers with headers },
     field "params" (asList asParameterMatcher) fun parameters matchers =>
       { matchers with parameters },
     field "body" (asList asBodyMatcher) fun body matchers => { matchers with body }]
    [] ignoreOther {}

def asResponseMatchers : Decoder ResponseMatchers :=
  asRecord
    [field "code" (asOption asSearchMode) fun code matchers => { matchers with code },
     field "headers" (asList asHeaderMatcher) fun headers matchers => { matchers with headers },
     field "body" (asList asBodyMatcher) fun body matchers => { matchers with body }]
    [] ignoreOther {}

def asRule : Decoder Rule :=
  asRecord
    [field "id" asText fun id rule => { rule with id },
     field "info" asRuleInfo fun info rule => { rule with info },
     field "request" (asOption asRequestMatchers) fun request rule => { rule with request },
     field "response" (asOption asResponseMatchers) fun response rule => { rule with response }]
    ["id", "info"] ignoreOther { id := "", info := { severity := .low } }

/-- The rule that a text describes. It is not validated. -/
def Rule.parse (text : String) : Except DocumentFault Rule :=
  Yaml.decode asRule text

end HttpInspection
