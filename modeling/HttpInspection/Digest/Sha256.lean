import HttpInspection.Codec.Hex
import HttpInspection.Digest.Word

/-!
# SHA-256
-/

set_option autoImplicit false

namespace HttpInspection.Digest.Sha256

structure State where
  a : UInt32
  b : UInt32
  c : UInt32
  d : UInt32
  e : UInt32
  f : UInt32
  g : UInt32
  h : UInt32

def initial : State :=
  ⟨0x6a09e667, 0xbb67ae85, 0x3c6ef372, 0xa54ff53a, 0x510e527f, 0x9b05688c, 0x1f83d9ab, 0x5be0cd19⟩

def constants : List UInt32 :=
  [0x428a2f98, 0x71374491, 0xb5c0fbcf, 0xe9b5dba5, 0x3956c25b, 0x59f111f1, 0x923f82a4, 0xab1c5ed5,
   0xd807aa98, 0x12835b01, 0x243185be, 0x550c7dc3, 0x72be5d74, 0x80deb1fe, 0x9bdc06a7, 0xc19bf174,
   0xe49b69c1, 0xefbe4786, 0x0fc19dc6, 0x240ca1cc, 0x2de92c6f, 0x4a7484aa, 0x5cb0a9dc, 0x76f988da,
   0x983e5152, 0xa831c66d, 0xb00327c8, 0xbf597fc7, 0xc6e00bf3, 0xd5a79147, 0x06ca6351, 0x14292967,
   0x27b70a85, 0x2e1b2138, 0x4d2c6dfc, 0x53380d13, 0x650a7354, 0x766a0abb, 0x81c2c92e, 0x92722c85,
   0xa2bfe8a1, 0xa81a664b, 0xc24b8b70, 0xc76c51a3, 0xd192e819, 0xd6990624, 0xf40e3585, 0x106aa070,
   0x19a4c116, 0x1e376c08, 0x2748774c, 0x34b0bcb5, 0x391c0cb3, 0x4ed8aa4a, 0x5b9cca4f, 0x682e6ff3,
   0x748f82ee, 0x78a5636f, 0x84c87814, 0x8cc70208, 0x90befffa, 0xa4506ceb, 0xbef9a3f7, 0xc67178f2]

/-- The word that follows sixteen words of the schedule; `window` holds them, newest first. -/
def nextWord (window : List UInt32) : UInt32 :=
  let w2 := window.getD 1 0
  let w7 := window.getD 6 0
  let w15 := window.getD 14 0
  let w16 := window.getD 15 0
  let s0 := rotateRight w15 7 ^^^ rotateRight w15 18 ^^^ w15 >>> 3
  let s1 := rotateRight w2 17 ^^^ rotateRight w2 19 ^^^ w2 >>> 10
  w16 + s0 + w7 + s1

/-- The schedule with `count` more words, newest first. -/
def extend : Nat → List UInt32 → List UInt32
  | 0, window => window
  | count + 1, window => extend count (nextWord window :: window)

def schedule (block : List UInt32) : List UInt32 :=
  (extend 48 block.reverse).reverse

def step (s : State) (entry : UInt32 × UInt32) : State :=
  let (constant, word) := entry
  let s1 := rotateRight s.e 6 ^^^ rotateRight s.e 11 ^^^ rotateRight s.e 25
  let choice := (s.e &&& s.f) ^^^ (~~~s.e &&& s.g)
  let first := s.h + s1 + choice + constant + word
  let s0 := rotateRight s.a 2 ^^^ rotateRight s.a 13 ^^^ rotateRight s.a 22
  let majority := (s.a &&& s.b) ^^^ (s.a &&& s.c) ^^^ (s.b &&& s.c)
  ⟨first + (s0 + majority), s.a, s.b, s.c, s.d + first, s.e, s.f, s.g⟩

def absorb (s : State) (block : List UInt32) : State :=
  let mixed := (constants.zip (schedule block)).foldl step s
  ⟨s.a + mixed.a, s.b + mixed.b, s.c + mixed.c, s.d + mixed.d,
    s.e + mixed.e, s.f + mixed.f, s.g + mixed.g, s.h + mixed.h⟩

def digest (message : List UInt8) : List UInt8 :=
  let s := (blocks .mostFirst message).foldl absorb initial
  [s.a, s.b, s.c, s.d, s.e, s.f, s.g, s.h].flatMap fun w => bytesOfNat .mostFirst 4 w.toNat

def hexDigest (message : List UInt8) : String :=
  Hex.ofBytes (digest message)

end HttpInspection.Digest.Sha256
