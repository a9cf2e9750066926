import HttpInspection.Regex.Search
import HttpInspection.Rule.Token

/-!
# Rules

A rule says what to look for in requests and in responses, and how to report it.  Every place of a
rule that holds a search has a path; `Rule.searchModes` lists the searches with their paths, and
`Rule.mapModes` changes all of them.
-/

set_option autoImplicit false

namespace HttpInspection

/-- A search of one value: a text to find regardless of case, a pattern all of whose matches are
found, and the encodings to undo.  An empty text or pattern finds nothing. -/
structure SearchMode where
  literal : String := ""
  pattern : String := ""
  encodings : Option (List Encoding) := none
  deriving Repr, DecidableEq

namespace SearchMode

def badPattern : String := "regex parse error: malformed pattern"

def compiled (mode : SearchMode) : Except Failure (Option Regex) :=
  if mode.pattern.isEmpty then .ok none
  else
    match Regex.compile? mode.pattern with
    | some regex => .ok (some regex)
    | none => .error (.pattern mode.pattern badPattern)

def effectiveEncodings (mode : SearchMode) : List Encoding :=
  mode.encodings.getD []

/-- A search with encodings of its own if it declares none. -/
def inherit (encodings : List Encoding) (mode : SearchMode) : SearchMode :=
  { mode with encodings := some (mode.encodings.getD encodings) }

end SearchMode

structure HeaderMatcher where
  name : String
  mode : SearchMode := {}
  deriving Repr, DecidableEq

/-- A search of the value of every parameter of one name; the name `any` stands for all names. -/
structure ParameterMatcher where
  name : String
  mode : SearchMode := {}
  deriving Repr, DecidableEq

def ParameterMatcher.anyName : String := "any"

def ParameterMatcher.appliesTo (matcher : ParameterMatcher) (name : String) : Bool :=
  matcher.name == anyName || matcher.name == name

/-- A search of a body, and digests that the whole body may have. -/
structure BodyMatcher where
  mode : SearchMode := {}
  md5sum : Option String := none
  sha256sum : Option String := none
  deriving Repr, DecidableEq

/-- How a rule is reported, and what it says for all of its searches. -/
structure RuleInfo where
  name : String := ""
  description : String := ""
  severity : Severity
  classification : String := ""
  action : Option Action := none
  encodings : Option (List Encoding) := none
  deriving Repr, DecidableEq

structure RequestMatchers where
  method : Option SearchMode := none
  url : List SearchMode := []
  headers : List HeaderMatcher := []
  parameters : List ParameterMatcher := []
  body : List BodyMatcher := []
  deriving Repr, DecidableEq

/-- What a rule looks for in responses. The search of the status code is checked, not applied. -/
structure ResponseMatchers where
  code : Option SearchMode := none
  headers : List HeaderMatcher := []
  body : List BodyMatcher := []
  deriving Repr, DecidableEq

structure Rule where
  id : String
  info : RuleInfo
  request : Option RequestMatchers := none
  response : Option ResponseMatchers := none
  deriving Repr, DecidableEq

def indexedPath (base : String) (i : Nat) : String :=
  let index := toString i
  s!"{base}[{index}]"

def namedPath (base name : String) : String :=
  s!"{base}[{name}]"

namespace RequestMatchers

def searchModes (matchers : RequestMatchers) : List (String × SearchMode) :=
  (matchers.method.toList.map fun mode => ("request.method", mode)) ++
    (matchers.url.zipIdx.map fun (mode, i) => (indexedPath "request.url" i, mode)) ++
    (matchers.headers.map fun header => (namedPath "request.headers" header.name, header.mode)) ++
    (matchers.parameters.map fun parameter =>
      (namedPath "request.params" parameter.name, parameter.mode)) ++
    (matchers.body.zipIdx.map fun (body, i) => (indexedPath "request.body" i, body.mode))

def mapModes (f : SearchMode → SearchMode) (matchers : RequestMatchers) : RequestMatchers where
  method := matchers.method.map f
  url := matchers.url.map f
  headers := matchers.headers.map fun header => { header with mode := f header.mode }
  parameters := matchers.parameters.map fun parameter => { parameter with mode := f parameter.mode }
  body := matchers.body.map fun body => { body with mode := f body.mode }

end RequestMatchers

namespace ResponseMatchers

def searchModes (matchers : ResponseMatchers) : List (String × SearchMode) :=
  (matchers.code.toList.map fun mode => ("response.code", mode)) ++
    (matchers.headers.map fun header => (namedPath "response.headers" header.name, header.mode)) ++
    (matchers.body.zipIdx.map fun (body, i) => (indexedPath "response.body" i, body.mode))

def mapModes (f : SearchMode → SearchMode) (matchers : ResponseMatchers) : ResponseMatchers where
  code := matchers.code.map f
  headers := matchers.headers.map fun header => { header with mode := f header.mode }
  body := matchers.body.map fun body => { body with mode := f body.mode }

end ResponseMatchers

namespace Rule

def searchModes (rule : Rule) : List (String × SearchMode) :=
  (rule.request.map RequestMatchers.searchModes).getD [] ++
    (rule.response.map ResponseMatchers.searchModes).getD []

def mapModes (f : SearchMode → SearchMode) (rule : Rule) : Rule :=
  { rule with
    request := rule.request.map (RequestMatchers.mapModes f)
    response := rule.response.map (ResponseMatchers.mapModes f) }

/-- A rule whose searches have the encodings of the rule where they declare none. -/
def inheritEncodings (rule : Rule) : Rule :=
  match rule.info.encodings with
  | some encodings => rule.mapModes (SearchMode.inherit encodings)
  | none => rule

end Rule

end HttpInspection
