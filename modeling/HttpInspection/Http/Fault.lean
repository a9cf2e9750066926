/-!
# Faults of messages

Why the parts of a message do not make a message.
-/

set_option autoImplicit false

namespace HttpInspection.Http

inductive Fault where
  | method
  | uriTooLong
  | uriEmpty
  | uriCharacter
  | uriFormat
  | uriAuthority
  | uriSchemeTooLong
  | headerName
  | headerValue
  | status
  deriving Repr, DecidableEq

def Fault.message : Fault → String
  | method => "invalid HTTP method"
  | uriTooLong => "uri too long"
  | uriEmpty => "empty string"
  | uriCharacter => "invalid uri character"
  | uriFormat => "invalid format"
  | uriAuthority => "invalid authority"
  | uriSchemeTooLong => "scheme too long"
  | headerName => "invalid HTTP header name"
  | headerValue => "failed to parse header value"
  | status => "invalid status code"

end HttpInspection.Http
