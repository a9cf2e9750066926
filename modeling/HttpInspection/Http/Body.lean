/-!
# Bodies

The bytes of a body with a position for reading.  Reading and seeking change the position alone; a
position may lie behind the end.
-/

set_option autoImplicit false

namespace HttpInspection.Http

/-- A body that is read from a position. -/
structure Body where
  bytes : List UInt8
  position : Nat := 0
  deriving Repr, DecidableEq

inductive SeekTarget where
  | fromStart (offset : Nat)
  | fromEnd (offset : Int)
  | fromHere (offset : Int)
  deriving Repr, DecidableEq

inductive SeekFault where
  | outOfRange
  deriving Repr, DecidableEq

def SeekFault.message : SeekFault → String
  | outOfRange => "invalid seek to a negative or overflowing position"

namespace Body

def positionBound : Nat := Nat.pow 2 64

def empty : Body := ⟨[], 0⟩

def size (body : Body) : Nat :=
  body.bytes.length

def isEmpty (body : Body) : Bool :=
  body.bytes.isEmpty

def rewound (body : Body) : Body :=
  { body with position := 0 }

/-- At most `count` bytes from the position on, and the body behind them. -/
def read (body : Body) (count : Nat) : List UInt8 × Body :=
  let bytes := (body.bytes.drop body.position).take count
  (bytes, { body with position := body.position + bytes.length })

/-- All bytes, and the body at its start. -/
def readAll (body : Body) : List UInt8 × Body :=
  let (bytes, body) := body.rewound.read body.size
  (bytes, body.rewound)

def targetOf (body : Body) : SeekTarget → Int
  | .fromStart offset => offset
  | .fromEnd offset => body.size + offset
  | .fromHere offset => body.position + offset

def seek (body : Body) (target : SeekTarget) : Except SeekFault Body :=
  let position := body.targetOf target
  if 0 ≤ position ∧ position < positionBound then .ok { body with position := position.toNat }
  else .error .outOfRange

end Body

end HttpInspection.Http
