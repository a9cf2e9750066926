import HttpInspection.Finding
import HttpInspection.Json.Record

/-!
# Findings in JSON

The record of a finding.  The digest and its algorithm are left out when they are not there.
-/

set_option autoImplicit false

namespace HttpInspection

def HashAlgorithm.variants : List (String × HashAlgorithm) :=
  [(md5.name, md5), (sha256.name, sha256)]

namespace Finding

/-- An entry that is left out when there is no value. -/
def optionalEntry (name : String) (value : Option String) : List (String × Json) :=
  value.toList.map fun text => (name, Json.ofString text)

def toJson (finding : Finding) : Json :=
  Json.ofEntries <|
    [("ruleId", Json.ofString finding.ruleId),
     ("ruleName", Json.ofString finding.ruleName),
     ("ruleDescription", Json.ofString finding.ruleDescription),
     ("line", Json.ofInt finding.line),
     ("lineIndex", Json.ofInt finding.lineIndex),
     ("length", Json.ofInt finding.length),
     ("matchedString", Json.ofString finding.matchedString)] ++
    optionalEntry "matchedBodyHash" finding.matchedBodyHash ++
    optionalEntry "matchedBodyHashAlg" (finding.matchedBodyHashAlg.map HashAlgorithm.name) ++
    [("classification", Json.ofString finding.classification),
     ("severity", Json.ofString finding.severity.word)]

def asAlgorithm : Json.Decoder (Option HashAlgorithm) :=
  Json.asOption (Json.asVariant HashAlgorithm.variants)

def fields : Json.Fields :=
  [Json.field "ruleId" Json.asText,
   Json.field "ruleName" Json.asText,
   Json.field "ruleDescription" Json.asText,
   Json.field "line" Json.asInt,
   Json.field "lineIndex" Json.asInt,
   Json.field "length" Json.asNat,
   Json.field "matchedString" Json.asText,
   Json.field "matchedBodyHash" (Json.asOption Json.asText),
   Json.field "matchedBodyHashAlg" asAlgorithm,
   Json.field "classification" Json.asText,
   Json.field "severity" (Json.asWord Severity.parse)]

def ofJson : Json.Decoder Finding := fun value => do
  let record ← value.fields fields fields.length
  let ruleId ← Json.required record "ruleId" Json.asText
  let ruleName ← Json.required record "ruleName" Json.asText
  let ruleDescription ← Json.required record "ruleDescription" Json.asText
  let line ← Json.required record "line" Json.asInt
  let lineIndex ← Json.required record "lineIndex" Json.asInt
  let length ← Json.required record "length" Json.asNat
  let matchedString ← Json.required record "matchedString" Json.asText
  let matchedBodyHash ←
    Json.optional record "matchedBodyHash" none (Json.asOption Json.asText)
  let matchedBodyHashAlg ← Json.optional record "matchedBodyHashAlg" none asAlgorithm
  let classification ← Json.required record "classification" Json.asText
  let severity ← Json.required record "severity" (Json.asWord Severity.parse)
  return { ruleId, ruleName, ruleDescription, line, lineIndex, length, matchedString,
           matchedBodyHash, matchedBodyHashAlg, classification, severity }

end Finding

end HttpInspection
