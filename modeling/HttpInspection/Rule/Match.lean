import HttpInspection.Candidates
import HttpInspection.Digest.Md5
import HttpInspection.Digest.Sha256
import HttpInspection.Finding
import HttpInspection.Notice
import HttpInspection.Text.Split

/-!
# Searching values

Every search gives the texts that it found in one part of an exchange.  A search whose pattern does
not compile finds nothing at all and says so.  A digest of a body is computed when a matcher first asks
for it, and kept for the matchers behind it.
-/

set_option autoImplicit false

namespace HttpInspection

/-- Whether a text occurs in another when both are in lower case. -/
def occursIgnoringCase (needle text : String) : Bool :=
  occursIn (lowercase needle).toList (lowercase text).toList

namespace SearchMode

/-- The literal of a search, if it is there and occurs in a text. -/
def literalHit (mode : SearchMode) (text : String) : List String :=
  if !mode.literal.isEmpty && occursIgnoringCase mode.literal text then [mode.literal] else []

/-- What a search with a compiled pattern finds in one text: its literal, then every match of its
pattern. -/
def hits (mode : SearchMode) (regex : Option Regex) (text : String) : List String :=
  mode.literalHit text ++ (regex.map fun regex => regex.findAll text).getD []

def search (mode : SearchMode) (value : String) : Traced (List String) :=
  match mode.compiled with
  | .error failure => ⟨[], [.searchSkipped failure]⟩
  | .ok regex => ⟨(candidates value mode.effectiveEncodings).flatMap (mode.hits regex), []⟩

end SearchMode

def searchAll (searches : List (SearchMode × String)) : Traced (List String) :=
  let results := Traced.collect (searches.map fun (mode, value) => mode.search value)
  ⟨results.value.flatten, results.notices⟩

def matchMethod (method : String) (mode : Option SearchMode) : Traced (List String) :=
  searchAll (mode.toList.map fun mode => (mode, method))

def matchUrl (target : String) (modes : List SearchMode) : Traced (List String) :=
  searchAll (modes.map fun mode => (mode, target))

/-- The matcher of a header: the first of its name, regardless of case. -/
def headerMatcher? (matchers : List HeaderMatcher) (name : String) : Option HeaderMatcher :=
  matchers.find? fun matcher => equalIgnoringAsciiCase matcher.name name

/-- What is found in the headers, header by header and value by value. -/
def matchHeaders (headers : List (String × List String)) (matchers : List HeaderMatcher) :
    Traced (List String) :=
  searchAll (headers.flatMap fun (name, values) =>
    match headerMatcher? matchers name with
    | some matcher => values.map fun value => (matcher.mode, value)
    | none => [])

/-- What is found in the parameters, matcher by matcher and parameter by parameter. -/
def matchParameters (parameters : List (String × String)) (matchers : List ParameterMatcher) :
    Traced (List String) :=
  searchAll (matchers.flatMap fun matcher =>
    (parameters.filter fun (name, _) => matcher.appliesTo name).map fun (_, value) =>
      (matcher.mode, value))

def HashAlgorithm.hexDigest (algorithm : HashAlgorithm) (bytes : List UInt8) : String :=
  match algorithm with
  | md5 => Digest.Md5.hexDigest bytes
  | sha256 => Digest.Sha256.hexDigest bytes

structure KnownDigests where
  md5 : Option String := none
  sha256 : Option String := none

namespace KnownDigests

def find? (known : KnownDigests) : HashAlgorithm → Option String
  | .md5 => known.md5
  | .sha256 => known.sha256

def learn (known : KnownDigests) (algorithm : HashAlgorithm) (digest : String) : KnownDigests :=
  match algorithm with
  | .md5 => { known with md5 := some digest }
  | .sha256 => { known with sha256 := some digest }

/-- The digest of a body, which is computed unless it is known. -/
def fetch (known : KnownDigests) (body : List UInt8) (algorithm : HashAlgorithm) :
    String × KnownDigests :=
  match known.find? algorithm with
  | some digest => (digest, known)
  | none =>
    let digest := algorithm.hexDigest body
    (digest, known.learn algorithm digest)

end KnownDigests

structure BodyMatches where
  text : List String := []
  hashes : List (HashAlgorithm × String) := []
  deriving Repr, DecidableEq

namespace BodyMatcher

def expected (matcher : BodyMatcher) : HashAlgorithm → Option String
  | .md5 => matcher.md5sum
  | .sha256 => matcher.sha256sum

end BodyMatcher

/-- What was found in a body so far, and the digests that became known on the way. -/
structure BodySearch where
  found : BodyMatches := {}
  known : KnownDigests := {}

namespace BodySearch

def addTexts (search : BodySearch) (texts : List String) : BodySearch :=
  { search with found := { search.found with text := search.found.text ++ texts } }

/-- The search with the digest of the body, if it is the one that a matcher asks for; an empty text
asks for none. -/
def compareDigest (search : BodySearch) (body : List UInt8) (matcher : BodyMatcher)
    (algorithm : HashAlgorithm) : BodySearch :=
  match (matcher.expected algorithm).filter fun expected => !expected.isEmpty with
  | none => search
  | some expected =>
    let (actual, known) := search.known.fetch body algorithm
    let found := search.found
    if equalIgnoringAsciiCase actual (trim expected) then
      { found := { found with hashes := found.hashes ++ [(algorithm, actual)] }, known }
    else { found, known }

/-- The search after one more matcher: its text first, then its digests. -/
def step (search : BodySearch) (body : List UInt8) (text : String) (matcher : BodyMatcher) :
    Traced BodySearch := do
  let texts ← matcher.mode.search text
  let search := search.addTexts texts
  return (search.compareDigest body matcher .md5).compareDigest body matcher .sha256

def run (search : BodySearch) (body : List UInt8) (text : String) :
    List BodyMatcher → Traced BodySearch
  | [] => return search
  | matcher :: rest => do
    let search ← search.step body text matcher
    search.run body text rest

end BodySearch

/-- What the matchers find in the text of a body, and the digests of its bytes that they ask for. -/
def matchBody (body : List UInt8) (matchers : List BodyMatcher) : Traced BodyMatches := do
  let search ← BodySearch.run {} body (lossyText body) matchers
  return search.found

end HttpInspection
