import HttpInspection.Text.CaseTable

/-!
# Sets of characters

Sets of code points as increasing, separated ranges, with the set operations of character classes
and the closure under simple case folding.
-/

set_option autoImplicit false

namespace HttpInspection.Regex.CharSet

def maximum : Nat := 0x10FFFF

/-- Ranges in increasing order with overlapping and touching neighbours joined, given in increasing
order of their starts. -/
def join : Ranges → Ranges
  | [] => []
  | (first, last) :: rest =>
    match join rest with
    | [] => [(first, last)]
    | (first', last') :: rest' =>
      if first' ≤ last + 1 then (first, max last last') :: rest'
      else (first, last) :: (first', last') :: rest'

def ofRanges (ranges : Ranges) : Ranges :=
  join (ranges.mergeSort fun a b => a.1 ≤ b.1)

def single (n : Nat) : Ranges := [(n, n)]

def union (a b : Ranges) : Ranges :=
  ofRanges (a ++ b)

/-- The code points from `start` on that are not in a set. -/
def complementFrom (start : Nat) : Ranges → Ranges
  | [] => if start ≤ maximum then [(start, maximum)] else []
  | (first, last) :: rest =>
    if start < first then (start, first - 1) :: complementFrom (last + 1) rest
    else complementFrom (last + 1) rest

def complement (a : Ranges) : Ranges :=
  complementFrom 0 a

def inter (a b : Ranges) : Ranges :=
  complement (union (complement a) (complement b))

def diff (a b : Ranges) : Ranges :=
  inter a (complement b)

def symmDiff (a b : Ranges) : Ranges :=
  union (diff a b) (diff b a)

def isAscii (a : Ranges) : Bool :=
  a.all fun range => range.2 < 0x80

def rowPairs (row : CaseTable.Row) : List (Nat × Nat) :=
  (List.range ((row.last - row.first) / row.step + 1)).map fun i =>
    (row.first + i * row.step, row.image + i * row.step)

/-- Every code point that is not the least of its case class, with the least one. -/
def classPairs : List (Nat × Nat) :=
  CaseTable.classRows.flatMap rowPairs

/-- The set with every code point that differs from a member by case alone. -/
def foldCase (a : Ranges) : Ranges :=
  let least := classPairs.filterMap fun (n, least) => if a.contains n then some (least, least) else none
  let withLeast := union a least
  union withLeast <| classPairs.filterMap fun (n, least) =>
    if withLeast.contains least then some (n, n) else none

def foldAsciiCase (a : Ranges) : Ranges :=
  let letters := (List.range 26).flatMap fun i =>
    if a.contains (65 + i) || a.contains (97 + i) then [(65 + i, 65 + i), (97 + i, 97 + i)] else []
  union a letters

/-- A character and every character that differs from it by case alone. -/
def caseVariants (n : Nat) : Ranges :=
  let least := (CaseTable.image? CaseTable.classRows n).getD n
  ofRanges (((least :: CaseTable.preimages CaseTable.classRows least).map single).flatten)

end HttpInspection.Regex.CharSet
