import HttpInspection.Regex.Expr

/-!
# Compiled expressions

An expression as a list of instructions.  An instruction that consumes or tests goes on with the
next one, a `split` tries its first target before its second.
-/

set_option autoImplicit false

namespace HttpInspection.Regex

inductive Instruction where
  | consume (members : Ranges)
  | test (condition : Look)
  | split (preferred other : Nat)
  | jump (target : Nat)
  | accept
  deriving Repr, Inhabited

/-- A split in the order that greed asks for. -/
def Instruction.choice (greedy : Bool) (again done : Nat) : Instruction :=
  if greedy then .split again done else .split done again

/-- `count` copies of code whose text depends on where it starts, one after another. -/
def copies (code : Nat → List Instruction) : Nat → Nat → List Instruction
  | 0, _ => []
  | count + 1, start =>
    let first := code start
    first ++ copies code count (start + first.length)

/-- `count` optional copies of code; each is tried only after the one before it. -/
def optionalCopies (greedy : Bool) (code : Nat → List Instruction) (finish : Nat) :
    Nat → Nat → List Instruction
  | 0, _ => []
  | count + 1, start =>
    let body := code (start + 1)
    .choice greedy (start + 1) finish :: body ++
      optionalCopies greedy code finish count (start + 1 + body.length)

namespace Expr

def code : Expr → Nat → List Instruction
  | empty, _ => []
  | set members, _ => [.consume members]
  | look condition, _ => [.test condition]
  | cat a b, start =>
    let first := a.code start
    first ++ b.code (start + first.length)
  | alt a b, start =>
    let first := a.code (start + 1)
    let next := start + 1 + first.length + 1
    let second := b.code next
    .split (start + 1) next :: first ++ .jump (next + second.length) :: second
  | group body, start => body.code start
  | .repeat min (some max) greedy body, start =>
    let needed := copies body.code min start
    let from' := start + needed.length
    let width := (body.code from').length + 1
    needed ++ optionalCopies greedy body.code (from' + (max - min) * width) (max - min) from'
  | .repeat 0 none greedy body, start =>
    if body.nullable then
      let once := body.code (start + 1)
      let again := start + 1 + once.length
      .choice greedy (start + 1) (again + 1) :: once ++ [.choice greedy (start + 1) (again + 1)]
    else
      let once := body.code (start + 1)
      .choice greedy (start + 1) (start + 1 + once.length + 1) :: once ++ [.jump start]
  | .repeat (min + 1) none greedy body, start =>
    let needed := copies body.code min start
    let last := start + needed.length
    let once := body.code last
    needed ++ once ++ [.choice greedy last (last + once.length + 1)]

def program (e : Expr) : Array Instruction :=
  (e.code 0 ++ [Instruction.accept]).toArray

end Expr

end HttpInspection.Regex
