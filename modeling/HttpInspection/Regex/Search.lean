import HttpInspection.Regex.Parse
import HttpInspection.Regex.Program

/-!
# Finding matches

All ways through a program are followed at once, in order of preference, while the text is read from
left to right.  Of the matches with the leftmost start the preferred one is found.
-/

set_option autoImplicit false

namespace HttpInspection.Regex

def isWordCharacter (unicode : Bool) (c : Char) : Bool :=
  if c.toNat < 0x80 then c.isAlphanum || c == '_'
  else unicode && Property.wordCharacters.contains c.toNat

def Look.holds (before after : Option Char) : Look → Bool
  | textStart => before.isNone
  | textEnd => after.isNone
  | lineStart false => before.isNone || before == some '\n'
  | lineStart true =>
    before.isNone || before == some '\n' || (before == some '\r' && after != some '\n')
  | lineEnd false => after.isNone || after == some '\n'
  | lineEnd true =>
    after.isNone || after == some '\r' || (after == some '\n' && before != some '\r')
  | word edge unicode =>
    let left := before.any (isWordCharacter unicode)
    let right := after.any (isWordCharacter unicode)
    match edge with
    | .boundary => left != right
    | .interior => left == right
    | .start => !left && right
    | .finish => left && !right
    | .startHalf => !left
    | .finishHalf => !right

/-- A way through a program: the instruction that is next and where the match began. -/
structure Thread where
  next : Nat
  start : Nat
  deriving Repr

/-- What is reached without reading: the threads that wait for a character, newest first, the start
of a match that is complete, and the instructions that have been visited. -/
structure Reached where
  waiting : List Thread := []
  complete : Option Nat := none
  visited : Array Bool

/-- Follows one thread, given by the instructions to visit in order of preference, up to the
instructions that read; `fuel` bounds the number of visits. -/
def follow (program : Array Instruction) (before after : Option Char) (start : Nat) :
    Nat → List Nat → Reached → Reached
  | 0, _, reached => reached
  | _ + 1, [], reached => reached
  | fuel + 1, next :: rest, reached =>
    if reached.visited.getD next true then follow program before after start fuel rest reached
    else
      let reached := { reached with visited := reached.visited.setIfInBounds next true }
      match program.getD next .accept with
      | .consume _ =>
        follow program before after start fuel rest
          { reached with waiting := ⟨next, start⟩ :: reached.waiting }
      | .test condition =>
        let rest := if condition.holds before after then (next + 1) :: rest else rest
        follow program before after start fuel rest reached
      | .split preferred other =>
        follow program before after start fuel (preferred :: other :: rest) reached
      | .jump target => follow program before after start fuel (target :: rest) reached
      | .accept => { reached with complete := some start }

/-- Follows threads in order of preference up to a complete match. -/
def followAll (program : Array Instruction) (before after : Option Char) :
    List Thread → Reached → Reached
  | [], reached => reached
  | thread :: rest, reached =>
    let fuel := 3 * program.size + 3
    let reached := follow program before after thread.start fuel [thread.next] reached
    if reached.complete.isSome then reached else followAll program before after rest reached

def advance (program : Array Instruction) (c : Char) (threads : List Thread) : List Thread :=
  threads.filterMap fun thread =>
    match program.getD thread.next .accept with
    | .consume members =>
      if members.contains c.toNat then some { thread with next := thread.next + 1 } else none
    | _ => none

/-- The preferred leftmost match in the rest of a text, as the positions of its ends; `best` is the
match known so far. -/
def searchFrom (program : Array Instruction) :
    List Char → Option Char → Nat → List Thread → Option (Nat × Nat) → Option (Nat × Nat)
  | rest, before, position, threads, best =>
    let seeds := if best.isNone then threads ++ [⟨0, position⟩] else threads
    let visited := Array.replicate program.size false
    let reached := followAll program before rest.head? seeds { visited }
    let best := (reached.complete.map (·, position)).or best
    match rest with
    | [] => best
    | c :: rest =>
      let threads := advance program c reached.waiting.reverse
      if threads.isEmpty && best.isSome then best
      else searchFrom program rest (some c) (position + 1) threads best

/-- The matches in the rest of a text, from left to right and without overlap.  A match of the empty
text does not touch the match before it; `touching` says that one has just ended.  `fuel` bounds the
number of searches. -/
def matchesFrom (program : Array Instruction) :
    Nat → Option Char → Bool → List Char → List (List Char)
  | 0, _, _, _ => []
  | fuel + 1, before, touching, rest =>
    match searchFrom program rest before 0 [] none with
    | none => []
    | some (start, finish) =>
      if touching && finish == 0 then
        match rest with
        | [] => []
        | c :: rest => matchesFrom program fuel (some c) false rest
      else
        let consumed := rest.take finish
        consumed.drop start ::
          matchesFrom program fuel (consumed.getLast?.or before) true (rest.drop finish)

end Regex

structure Regex where
  program : Array Regex.Instruction

namespace Regex

def compile? (pattern : String) : Option Regex :=
  (Pattern.parse? pattern.toList).map fun e => ⟨e.program⟩

/-- The texts of all matches, from left to right and without overlap. -/
def findAll (regex : Regex) (text : String) : List String :=
  let cs := text.toList
  (matchesFrom regex.program (2 * cs.length + 2) none false cs).map String.ofList

end Regex

end HttpInspection
