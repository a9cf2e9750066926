import HttpInspection.Proofs.Base64
import HttpInspection.Proofs.Courses
import HttpInspection.Proofs.Inspection

/-!
# The trails of exchanges

Every exchange takes one of four trails.  The trail settles which states are visited, how often the
request is handed on, which raw response is logged and what the client is answered; and on every
trail one entry is logged, which agrees with the outcome.
-/

set_option autoImplicit false

namespace HttpInspection

open Http

namespace Agent

/-! ## The log entry -/

theorem decode_logEntry_request (agent : Agent) (around : Surroundings) (request : Request)
    (remote : Option IpAddress) (course : Course) :
    Base64.decode? (bytesOf (agent.logEntry around remote
      (agent.inspectRequest around.alerts request) course).request) =
      some (bytesOf request.dump.1) := by
  simp only [logEntry, inspectRequest_raw, decode_base64Text]

theorem decode_logEntry_response (agent : Agent) (around : Surroundings)
    (remote : Option IpAddress) (first : Inspected Request) (course : Course) :
    Base64.decode? (bytesOf (agent.logEntry around remote first course).response) =
      some (bytesOf ((course.second?.map Inspected.raw).getD "")) := by
  simp only [logEntry, decode_base64Text]

end Agent

end HttpInspection
