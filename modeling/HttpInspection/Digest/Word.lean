/-!
# Messages as words

Both digests pad a message to whole blocks of sixty-four bytes and read it as words of thirty-two
bits; they differ in the order of the bytes of a word.
-/

set_option autoImplicit false

namespace HttpInspection.Digest

inductive ByteOrder where
  | leastFirst
  | mostFirst
  deriving Repr, DecidableEq

def bytesLeastFirst : Nat → Nat → List UInt8
  | 0, _ => []
  | count + 1, n => n.toUInt8 :: bytesLeastFirst count (n / 256)

def bytesOfNat (order : ByteOrder) (count n : Nat) : List UInt8 :=
  match order with
  | .leastFirst => bytesLeastFirst count n
  | .mostFirst => (bytesLeastFirst count n).reverse

def wordOfBytes (order : ByteOrder) (a b c d : UInt8) : UInt32 :=
  match order with
  | .leastFirst => a.toUInt32 ||| b.toUInt32 <<< 8 ||| c.toUInt32 <<< 16 ||| d.toUInt32 <<< 24
  | .mostFirst => d.toUInt32 ||| c.toUInt32 <<< 8 ||| b.toUInt32 <<< 16 ||| a.toUInt32 <<< 24

/-- A message with a single one bit, zeros, and its length in bits, filling whole blocks. -/
def pad (order : ByteOrder) (message : List UInt8) : List UInt8 :=
  let zeros := (64 + 55 - message.length % 64) % 64
  message ++ 0x80 :: List.replicate zeros 0 ++ bytesOfNat order 8 (message.length * 8)

def words (order : ByteOrder) : List UInt8 → List UInt32
  | a :: b :: c :: d :: rest => wordOfBytes order a b c d :: words order rest
  | _ => []

/-- The blocks of a message, sixteen words each; `fuel` bounds their number. -/
def blocksOf : Nat → List UInt32 → List (List UInt32)
  | 0, _ => []
  | fuel + 1, ws => if ws.isEmpty then [] else ws.take 16 :: blocksOf fuel (ws.drop 16)

def blocks (order : ByteOrder) (message : List UInt8) : List (List UInt32) :=
  let ws := words order (pad order message)
  blocksOf ws.length ws

def rotateLeft (w : UInt32) (n : UInt32) : UInt32 :=
  w <<< n ||| w >>> (32 - n)

def rotateRight (w : UInt32) (n : UInt32) : UInt32 :=
  w >>> n ||| w <<< (32 - n)

end HttpInspection.Digest
