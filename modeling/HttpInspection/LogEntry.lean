import HttpInspection.Codec.Base64
import HttpInspection.Finding.Record

/-!
# Log entries

What is kept of one exchange: who took part, the raw texts in base64, the verdict and the findings.
An entry is written as one line of JSON.
-/

set_option autoImplicit false

namespace HttpInspection

structure LogEntry where
  agentId : String
  remoteIp : String
  timestamp : Int
  websocket : Bool := false
  request : String := ""
  response : String := ""
  blocked : Bool := false
  requestFindings : List Finding := []
  responseFindings : List Finding := []
  validatorFindings : List Finding := []
  deriving Repr, DecidableEq

def base64Text (raw : String) : String :=
  Base64.ofString (bytesOf raw)

namespace LogEntry

def withRawRequest (entry : LogEntry) (raw : String) : LogEntry :=
  { entry with request := base64Text raw }

def withRawResponse (entry : LogEntry) (raw : String) : LogEntry :=
  { entry with response := base64Text raw }

def withoutRaw (entry : LogEntry) : LogEntry :=
  { entry with request := "", response := "" }

def findings (entry : LogEntry) : List Finding :=
  entry.requestFindings ++ entry.responseFindings ++ entry.validatorFindings

def hasRule (entry : LogEntry) (ruleId : String) : Bool :=
  entry.findings.any fun finding => finding.ruleId == ruleId

def findingsToJson (findings : List Finding) : Json :=
  Json.ofList (findings.map Finding.toJson)

def toJson (entry : LogEntry) : Json :=
  Json.ofEntries
    [("agentId", Json.ofString entry.agentId),
     ("remoteIp", Json.ofString entry.remoteIp),
     ("timestamp", Json.ofInt entry.timestamp),
     ("websocket", Json.bool entry.websocket),
     ("request", Json.ofString entry.request),
     ("response", Json.ofString entry.response),
     ("blocked", Json.bool entry.blocked),
     ("requestFindings", findingsToJson entry.requestFindings),
     ("responseFindings", findingsToJson entry.responseFindings),
     ("validatorFindings", findingsToJson entry.validatorFindings)]

def text (entry : LogEntry) : String :=
  entry.toJson.compact

def asFindings : Json.Decoder (List Finding) :=
  Json.asList Finding.ofJson

def fields : Json.Fields :=
  [Json.field "agentId" Json.asText,
   Json.field "remoteIp" Json.asText,
   Json.field "timestamp" Json.asInt,
   Json.field "websocket" Json.asBool,
   Json.field "request" Json.asText,
   Json.field "response" Json.asText,
   Json.field "blocked" Json.asBool,
   Json.field "requestFindings" asFindings,
   Json.field "responseFindings" asFindings,
   Json.field "validatorFindings" asFindings]

/-- The entry that a record describes; the findings of validators may be left out. -/
def ofJson : Json.Decoder LogEntry := fun value => do
  let record ← value.fields fields (fields.length - 1)
  let agentId ← Json.required record "agentId" Json.asText
  let remoteIp ← Json.required record "remoteIp" Json.asText
  let timestamp ← Json.required record "timestamp" Json.asInt
  let websocket ← Json.required record "websocket" Json.asBool
  let request ← Json.required record "request" Json.asText
  let response ← Json.required record "response" Json.asText
  let blocked ← Json.required record "blocked" Json.asBool
  let requestFindings ← Json.required record "requestFindings" asFindings
  let responseFindings ← Json.required record "responseFindings" asFindings
  let validatorFindings ← Json.optional record "validatorFindings" [] asFindings
  return { agentId, remoteIp, timestamp, websocket, request, response, blocked,
           requestFindings, responseFindings, validatorFindings }

def parse (text : String) : Except DocumentFault LogEntry :=
  Json.decode ofJson text

end LogEntry

end HttpInspection
