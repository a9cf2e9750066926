import HttpInspection.Http.Address
import HttpInspection.Http.Body
import HttpInspection.Http.Header
import HttpInspection.Http.Status
import HttpInspection.Http.Uri

/-!
# Requests and responses

Messages are built from the parts that a transport has read; the first part that is not acceptable
is the fault.
-/

set_option autoImplicit false

namespace HttpInspection.Http

inductive Version where
  | http09
  | http10
  | http11
  | http2
  | http3
  deriving Repr, DecidableEq

def Version.name : Version → String
  | http09 => "HTTP/0.9"
  | http10 => "HTTP/1.0"
  | http11 => "HTTP/1.1"
  | http2 => "HTTP/2.0"
  | http3 => "HTTP/3.0"

/-- What others have attached to a request, under the name of its kind.  Nothing here looks into
it. -/
structure Extension where
  kind : String
  content : List UInt8
  deriving Repr, DecidableEq

/-- A request.  Of what is attached to it only the address of the peer is ever looked at. -/
structure Request where
  method : String := "GET"
  uri : Uri := { path := "/" }
  version : Version := .http11
  headers : Headers := {}
  body : Body := .empty
  remote : Option IpAddress := none
  extensions : List Extension := []
  deriving Repr, DecidableEq

structure Response where
  status : Nat := 200
  version : Version := .http11
  headers : Headers := {}
  body : Body := .empty
  deriving Repr, DecidableEq

def method? (text : String) : Option String :=
  if !text.isEmpty && text.toList.all isTokenCharacter then some text else none

namespace Request

/-- The request that consists of the given parts.  Headers are checked first, then the method, then
the target. -/
def build (method target : String) (version : Version) (headers : List (String × List UInt8))
    (body : List UInt8) (remote : Option IpAddress) : Except Fault Request := do
  let headers ← Headers.ofPairs headers
  match method? method with
  | none => .error .method
  | some method =>
    let uri ← Uri.parse target
    .ok { method, uri, version, headers, body := ⟨body, 0⟩, remote }

def readBody (request : Request) : List UInt8 × Request :=
  let (bytes, body) := request.body.readAll
  (bytes, { request with body })

def rewound (request : Request) : Request :=
  { request with body := request.body.rewound }

end Request

namespace Response

/-- The response that consists of the given parts.  Headers are checked before the status. -/
def build (status : Nat) (version : Version) (headers : List (String × List UInt8))
    (body : List UInt8) : Except Fault Response := do
  let headers ← Headers.ofPairs headers
  if isStatus status then .ok { status, version, headers, body := ⟨body, 0⟩ }
  else .error .status

def readBody (response : Response) : List UInt8 × Response :=
  let (bytes, body) := response.body.readAll
  (bytes, { response with body })

def rewound (response : Response) : Response :=
  { response with body := response.body.rewound }

def ofContent (status : Nat) (contentType : String) (body : List UInt8) : Response where
  status := status
  headers := Headers.append {} "content-type" (bytesOf contentType)
  body := ⟨body, 0⟩

/-- A response whose body is the standard reason of its status. -/
def ofStatus (status : Nat) : Response where
  status := status
  body := ⟨bytesOf (reasonOf status), 0⟩

end Response

end HttpInspection.Http
