import HttpInspection.Text.Ranges

/-!
# Regular expressions

Expressions over characters.  Which of several matches is found follows from the order of the
alternatives and from whether a repetition is greedy.
-/

set_option autoImplicit false

namespace HttpInspection.Regex

/-- A relation between the characters on both sides of a position, as to words. -/
inductive WordEdge where
  | boundary
  | interior
  | start
  | finish
  | startHalf
  | finishHalf
  deriving Repr, DecidableEq

/-- A condition on a position that consumes nothing. -/
inductive Look where
  | textStart
  | textEnd
  | lineStart (crlf : Bool)
  | lineEnd (crlf : Bool)
  | word (edge : WordEdge) (unicode : Bool)
  deriving Repr, DecidableEq

inductive Expr where
  | empty
  | set (members : Ranges)
  | look (condition : Look)
  | cat (first second : Expr)
  | alt (preferred other : Expr)
  | group (body : Expr)
  | repeat (min : Nat) (max : Option Nat) (greedy : Bool) (body : Expr)
  deriving Repr

namespace Expr

def nullable : Expr → Bool
  | empty => true
  | set _ => false
  | look _ => true
  | cat a b => a.nullable && b.nullable
  | alt a b => a.nullable || b.nullable
  | group body => body.nullable
  | .repeat min _ _ body => min == 0 || body.nullable

/-- The weight of a set of characters in a compiled pattern, in bytes. -/
def setWeight (members : Ranges) : Nat :=
  match members with
  | [(first, last)] =>
    if last < 0x80 then 32
    else if first = last then (if first < 0x800 then 64 else if first < 0x10000 then 96 else 128)
    else 128
  | _ => 64 * (members.length + 1)

/-- The weight of an expression in a compiled pattern, in bytes. -/
def weight : Expr → Nat
  | empty => 32
  | set members => setWeight members
  | look _ => 32
  | cat a b => a.weight + b.weight
  | alt a b => a.weight + b.weight + 40
  | group body => body.weight + 64
  | .repeat min max _ body =>
    match max with
    | none => (Nat.max min 1) * body.weight + 40
    | some max => min * body.weight + (max - min) * (body.weight + 40) + 32

def weightLimit : Nat := 10 * 1024 * 1024

end Expr

end HttpInspection.Regex
