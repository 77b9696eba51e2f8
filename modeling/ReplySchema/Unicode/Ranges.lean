import ReplySchema.Number.Decimal
import ReplySchema.Text.Blank

/-! # Sets of code points as ranges

A set of code points is a list of ranges in ascending order that neither overlap nor
touch.  A Unicode property is written as a row of numbers, in turn how many code points
are left out and how many are taken, which `Ranges.ofRow` turns into ranges.

Complements reach up to the greatest code point.  They may take in surrogates, which no
text holds.
-/

set_option autoImplicit false

namespace ReplySchema.Unicode

/-- Ranges of code points, both ends included. -/
abbrev Ranges := List (Nat × Nat)

namespace Ranges

def contains (n : Nat) (rs : Ranges) : Bool := rs.any fun r => r.1 ≤ n && n ≤ r.2

/-- The numbers of a text, with blanks and line breaks between them. -/
def numbers (row : String) : List Nat :=
  let spaced := row.toList.map fun c => if Text.isBlank c then ' ' else c
  ((Text.splitAll ' ' spaced).filter fun ds => !ds.isEmpty).map Decimal.ofDigits

/-- Turns gaps and lengths into ranges, starting at a code point. -/
def ofGaps : Nat → List Nat → Ranges
  | start, gap :: length :: rest =>
      (start + gap, start + gap + length - 1) :: ofGaps (start + gap + length) rest
  | _, _ => []

def ofRow (row : String) : Ranges := ofGaps 0 (numbers row)

/-! ## Operations on sets -/

/-- Adds a range behind ranges that are given in descending order; it starts no earlier. -/
def push : Ranges → Nat × Nat → Ranges
  | [], r => [r]
  | last :: back, r =>
      if r.1 ≤ last.2 + 1 then (last.1, max last.2 r.2) :: back else r :: last :: back

/-- Puts ranges in order and joins those that overlap or touch. -/
def normalize (rs : Ranges) : Ranges :=
  ((rs.mergeSort fun a b => a.1 ≤ b.1).foldl push []).reverse

def unionAll (sets : List Ranges) : Ranges := normalize sets.flatten

def union (a b : Ranges) : Ranges := unionAll [a, b]

def greatest : Nat := 0x10FFFF

/-- The code points from `start` on that lie in none of the ranges. -/
def complFrom (start : Nat) : Ranges → Ranges
  | [] => if start ≤ greatest then [(start, greatest)] else []
  | r :: rest =>
      (if start < r.1 then [(start, r.1 - 1)] else []) ++ complFrom (max start (r.2 + 1)) rest

def compl (rs : Ranges) : Ranges := complFrom 0 rs

def inter (a b : Ranges) : Ranges := compl (union (compl a) (compl b))

def diff (a b : Ranges) : Ranges := compl (union (compl a) b)

/-- The members of one of two sets that are not in both. -/
def symmDiff (a b : Ranges) : Ranges := union (diff a b) (diff b a)

end Ranges

/-- Cuts numbers into groups, each a number, a length and so many numbers; `fuel` bounds the
groups. -/
def groups : Nat → List Nat → List (Nat × List Nat)
  | fuel + 1, n :: k :: rest => (n, rest.take k) :: groups fuel (rest.drop k)
  | _, _ => []

/-- Reads a row of code points, each with the number of those that it expands to and these. -/
def expansions (row : String) : List (Nat × List Nat) :=
  let numbers := Ranges.numbers row
  groups numbers.length numbers

/-- A name of a property value without blanks, hyphens and underscores, in small letters. -/
def looseName (name : String) : String :=
  String.ofList ((name.toList.filter fun c => c != ' ' && c != '-' && c != '_').map Char.toLower)

end ReplySchema.Unicode
