import HttpInspection.Codec.Hex

/-!
# Query escaping

In an escaped text a plus sign stands for a blank and `%` with two hexadecimal digits for a byte.
`unescape` is strict and names the first escape that is malformed; `unescapeLenient` keeps
malformed escapes as they are.
-/

set_option autoImplicit false

namespace HttpInspection.Query

def percent : UInt8 := 0x25

def plus : UInt8 := 0x2B

def blank : UInt8 := 0x20

def pair? (high low : UInt8) : Option UInt8 :=
  match Hex.value? high, Hex.value? low with
  | some h, some l => some (h * 16 + l)
  | _, _ => none

/-- The bytes that an escaped text stands for; the error is the percent sign of the first malformed
escape with at most two bytes after it. -/
def unescape : List UInt8 → Except (List UInt8) (List UInt8)
  | [] => .ok []
  | b :: rest =>
    if b = percent then
      match rest with
      | high :: low :: after =>
        match pair? high low with
        | some value => (unescape after).map (value :: ·)
        | none => .error [percent, high, low]
      | short => .error (percent :: short)
    else (unescape rest).map ((if b = plus then blank else b) :: ·)

/-- The byte of the escape whose percent sign has just been read. -/
def escaped? : List UInt8 → Option UInt8
  | high :: low :: _ => pair? high low
  | _ => none

/-- `unescapeLenient` of what follows `skip` more bytes, the digits of an escape. -/
def lenientAfter (plusIsBlank : Bool) : Nat → List UInt8 → List UInt8
  | _, [] => []
  | skip + 1, _ :: rest => lenientAfter plusIsBlank skip rest
  | 0, b :: rest =>
    if b = percent then
      match escaped? rest with
      | some value => value :: lenientAfter plusIsBlank 2 rest
      | none => b :: lenientAfter plusIsBlank 0 rest
    else (if plusIsBlank && b == plus then blank else b) :: lenientAfter plusIsBlank 0 rest

/-- The bytes that a text stands for when malformed escapes are ordinary text. -/
def unescapeLenient (plusIsBlank : Bool) (bytes : List UInt8) : List UInt8 :=
  lenientAfter plusIsBlank 0 bytes

end HttpInspection.Query
