import HttpInspection.Candidates
import HttpInspection.Http.Message
import HttpInspection.Notice
import HttpInspection.Text.Blank
import HttpInspection.Text.Split

/-!
# Parameters of requests

A query or a form is a sequence of pairs with ampersands between them.  A pair that is malformed is
skipped, with a notice, and has no influence on the others.
-/

set_option autoImplicit false

namespace HttpInspection.Http

/-- The pair that a segment writes: the key up to the first equals sign and the value after it. -/
def readPair (segment : List Char) : Except Failure (String × String) := do
  let (key, value) := (cutAtFirst (· == '=') segment).getD (segment, [])
  let key ← Query.unescapeText (String.ofList key)
  let value ← Query.unescapeText (String.ofList value)
  .ok (key, value)

/-- The pairs of one segment, none if it is empty or malformed. -/
def segmentPairs (segment : List Char) : Traced (List (String × String)) :=
  if segment.isEmpty then ⟨[], []⟩
  else
    match readPair segment with
    | .ok pair => ⟨[pair], []⟩
    | .error failure => ⟨[], [.parameterSkipped (String.ofList segment) failure]⟩

def parsePairs (raw : String) : Traced (List (String × String)) :=
  let segments := Traced.collect ((splitAtEvery (· == '&') raw.toList).map segmentPairs)
  ⟨segments.value.flatten, segments.notices⟩

def formMethods : List String := ["POST", "PUT", "PATCH"]

def formContentType : String := "application/x-www-form-urlencoded"

/-- Whether a byte is a visible ASCII character, a space or a tab. -/
def isVisibleByte (b : UInt8) : Bool :=
  (32 ≤ b && b < 127) || b == 9

/-- Whether the value of a content type, up to its parameters, is that of forms. -/
def isFormContentType (value : List UInt8) : Bool :=
  value.all isVisibleByte &&
    (let front := (lossyText value).toList.takeWhile (· != ';')
     equalIgnoringAsciiCase (trim (String.ofList front)) formContentType)

namespace Request

def hasForm (request : Request) : Bool :=
  formMethods.contains request.method &&
    (request.headers.get? "content-type").any isFormContentType

def queryParameters (request : Request) : Traced (List (String × String)) :=
  match request.uri.query with
  | some query => parsePairs query
  | none => ⟨[], []⟩

/-- The parameters of the body, and the request, whose body has been read if it is a form. -/
def formParameters (request : Request) : Traced (List (String × String) × Request) :=
  if request.hasForm then
    let (bytes, request) := request.readBody
    let pairs := parsePairs (lossyText bytes)
    ⟨(pairs.value, request), pairs.notices⟩
  else ⟨([], request), []⟩

/-- The path with its escapes undone, and behind a question mark the query, unless it is empty. -/
def target (request : Request) : String :=
  let path := Query.unescapeTextLenient false request.uri.path
  match request.uri.query with
  | some query => if query.isEmpty then path else path ++ "?" ++ Query.unescapeTextLenient true query
  | none => path

/-- The host that a request names: in its header, else in its target, else nowhere. -/
def host (request : Request) : String :=
  match request.headers.get? "host" with
  | some value => lossyText value
  | none => request.uri.authority.getD ""

end Request

end HttpInspection.Http
