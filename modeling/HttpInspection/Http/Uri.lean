import HttpInspection.Http.Fault
import HttpInspection.Text.Lowercase
import HttpInspection.Text.Split
import HttpInspection.Text.Utf8

/-!
# Request targets

A target is an absolute path with an optional query, the asterisk, an authority alone, or a scheme
with an authority, a path and a query.  A fragment is cut off.
-/

set_option autoImplicit false

namespace HttpInspection.Http

structure Uri where
  scheme : Option String := none
  authority : Option String := none
  path : String := ""
  query : Option String := none
  deriving Repr, DecidableEq

namespace Uri

def byteLimit : Nat := 65534

def schemeLimit : Nat := 64

def isPathCharacter (c : Char) : Bool :=
  let n := c.toNat
  n == 0x21 || (0x24 ≤ n && n ≤ 0x3B) || n == 0x3D || (0x40 ≤ n && n ≤ 0x5F) ||
    (0x61 ≤ n && n != 0x7F) || c == '"'

def isQueryCharacter (c : Char) : Bool :=
  let n := c.toNat
  n == 0x21 || (0x24 ≤ n && n ≤ 0x3B) || n == 0x3D ||
    (0x3F ≤ n && n != 0x7F)

def isSchemeCharacter (c : Char) : Bool :=
  c.isAlphanum || c == '+' || c == '-' || c == '.'

/-- Whether a character may stand in an authority, apart from those with a meaning of their own. -/
def isAuthorityCharacter (c : Char) : Bool :=
  c.isAlphanum || "!$&'()*+,-.;=_~".toList.contains c

/-- The query of a target, up to its fragment. -/
def readQuery : List Char → Except Fault (List Char)
  | [] => .ok []
  | '#' :: _ => .ok []
  | c :: rest => if isQueryCharacter c then (readQuery rest).map (c :: ·) else .error .uriCharacter

/-- The path and the query of a target, up to its fragment. -/
def readPath : List Char → Except Fault (List Char × Option (List Char))
  | [] => .ok ([], none)
  | '?' :: rest => (readQuery rest).map fun query => ([], some query)
  | '#' :: _ => .ok ([], none)
  | c :: rest =>
    if isPathCharacter c then (readPath rest).map fun (path, query) => (c :: path, query)
    else .error .uriCharacter

/-- What has been seen of an authority: the colons since the user information or the address in
brackets, the brackets, whether a percent sign is open, and whether the last character is `@`. -/
structure AuthorityScan where
  colons : Nat := 0
  opened : Bool := false
  closed : Bool := false
  percent : Bool := false
  atSign : Bool := false
  deriving Repr, DecidableEq

def colonLimit : Nat := 8

def AuthorityScan.read (scan : AuthorityScan) (c : Char) : Except Fault AuthorityScan :=
  let scan := { scan with atSign := false }
  if c = ':' then
    if colonLimit ≤ scan.colons then .error .uriAuthority
    else .ok { scan with colons := scan.colons + 1 }
  else if c = '[' then
    if scan.percent || scan.opened then .error .uriAuthority else .ok { scan with opened := true }
  else if c = ']' then
    if !scan.opened || scan.closed then .error .uriAuthority
    else .ok { scan with closed := true, colons := 0, percent := false }
  else if c = '@' then .ok { scan with colons := 0, percent := false, atSign := true }
  else if c = '%' then .ok { scan with percent := true }
  else if isAuthorityCharacter c then .ok scan
  else .error .uriCharacter

/-- Whether an authority may end: its brackets are closed, at most one colon follows the host, and a
host follows the user information. -/
def AuthorityScan.complete (scan : AuthorityScan) : Bool :=
  scan.opened == scan.closed && scan.colons ≤ 1 && !scan.atSign && !scan.percent

def readAuthority (scan : AuthorityScan) : List Char → Except Fault (List Char × List Char)
  | [] => if scan.complete then .ok ([], []) else .error .uriAuthority
  | c :: rest =>
    if c = '/' ∨ c = '?' ∨ c = '#' then
      if scan.complete then .ok ([], c :: rest) else .error .uriAuthority
    else
      match scan.read c with
      | .error fault => .error fault
      | .ok scan => (readAuthority scan rest).map fun (front, back) => (c :: front, back)

def schemeEnd : List Char := "://".toList

def readScheme (text : List Char) : Except Fault (Option (List Char × List Char)) :=
  let front := text.takeWhile isSchemeCharacter
  let back := text.drop front.length
  if startsWith schemeEnd back then
    if schemeLimit < front.length then .error .uriSchemeTooLong
    else .ok (some (front, back.drop schemeEnd.length))
  else .ok none

def ofPath (text : List Char) : Except Fault Uri :=
  (readPath text).map fun (path, query) =>
    { path := if path.isEmpty then "/" else String.ofList path
      query := query.map String.ofList }

/-- A target that is neither a path nor a single character. -/
def ofAbsolute (text : List Char) : Except Fault Uri := do
  match ← readScheme text with
  | none =>
    let (authority, rest) ← readAuthority {} text
    if rest.isEmpty then .ok { authority := some (String.ofList authority) } else .error .uriFormat
  | some (scheme, rest) =>
    let (authority, rest) ← readAuthority {} rest
    if authority.isEmpty then .error .uriFormat
    else
      let target ← ofPath rest
      .ok { target with
        scheme := some (String.ofList scheme)
        authority := some (String.ofList authority) }

def ofCharacter (c : Char) : Except Fault Uri :=
  if c = '/' ∨ c = '*' then .ok { path := String.singleton c }
  else do
    let (authority, rest) ← readAuthority {} [c]
    if rest.isEmpty then .ok { authority := some (String.ofList authority) }
    else .error .uriCharacter

def parse (text : String) : Except Fault Uri :=
  if byteLimit < (bytesOf text).length then .error .uriTooLong
  else
    match text.toList with
    | [] => .error .uriEmpty
    | [c] => ofCharacter c
    | c :: rest => if c = '/' then ofPath (c :: rest) else ofAbsolute (c :: rest)

end Uri

end HttpInspection.Http
