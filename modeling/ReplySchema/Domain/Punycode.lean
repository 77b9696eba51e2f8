import ReplySchema.Text.Blank

/-! # Labels written in ASCII

Punycode writes a label as its ASCII characters and, behind the last hyphen, numbers that
say which other characters stand where.  A number has digits of base 36, the lowest one
first.  It ends with the first digit below a threshold, which depends on the rank of the
digit and on a bias that is adapted to the numbers so far.

Reading is a run over the digits: `Insertion.step` takes one digit and inserts a character
whenever a number is complete.  Writing goes through the characters in ascending order.
-/

set_option autoImplicit false

namespace ReplySchema.Domain.Punycode

/-! ## §1  Digits -/

/-- The value of a digit: the letters come before the decimal digits. -/
def digitValue? (n : Nat) : Option Nat :=
  if 0x61 ≤ n ∧ n ≤ 0x7A then some (n - 0x61)
  else if 0x41 ≤ n ∧ n ≤ 0x5A then some (n - 0x41)
  else if 0x30 ≤ n ∧ n ≤ 0x39 then some (n - 0x30 + 26)
  else none

def digitCode (d : Nat) : Nat := if d < 26 then 0x61 + d else 0x30 + (d - 26)

/-- From which digit on a number goes on. -/
def threshold (bias rank : Nat) : Nat :=
  let t := (rank + 1) * 36 - bias
  if t < 1 then 1 else if 26 < t then 26 else t

theorem one_le_threshold (bias rank : Nat) : 1 ≤ threshold bias rank := by
  grind [threshold]

theorem threshold_le (bias rank : Nat) : threshold bias rank ≤ 26 := by
  grind [threshold]

/-- Divides an amount until it is small, and counts 36 for each division. -/
def settle (amount counted : Nat) : Nat :=
  if 455 < amount then settle (amount / 35) (counted + 36)
  else counted + 36 * amount / (amount + 38)
termination_by amount
decreasing_by exact Nat.div_lt_self (by omega) (by omega)

/-- The bias behind an amount, for a label that has so many characters now. -/
def adapt (amount size : Nat) (first : Bool) : Nat :=
  let half := if first then amount / 700 else amount / 2
  settle (half + half / size) 0

def firstBias : Nat := 72

/-! ## §2  Reading -/

/-- A label while characters are inserted into it. -/
structure Insertion where
  /-- The characters so far. -/
  chars : List Nat
  /-- The last character that was inserted. -/
  code : Nat
  /-- Where the next character would go if the next number were zero. -/
  place : Nat
  bias : Nat
  /-- Whether no number is complete yet. -/
  first : Bool
  /-- The value of the digits of the number that has begun. -/
  amount : Nat
  /-- What the next digit counts. -/
  weight : Nat
  /-- How many digits of the number there are. -/
  rank : Nat

namespace Insertion

def start (ascii : List Nat) : Insertion := ⟨ascii, 0x80, 0, firstBias, true, 0, 1, 0⟩

/-- A code point that a text can hold. -/
def isScalar (n : Nat) : Bool := n < 0xD800 || (0xDFFF < n && n ≤ 0x10FFFF)

/-- Inserts the character that a complete number stands for. -/
def insert? (i : Insertion) (amount : Nat) : Option Insertion :=
  let size := i.chars.length + 1
  let place := (i.place + amount) % size
  let code := i.code + (i.place + amount) / size
  if isScalar code then
    some ⟨i.chars.take place ++ code :: i.chars.drop place, code, place + 1,
      adapt amount size i.first, false, 0, 1, 0⟩
  else none

def step (i : Insertion) (digit : Nat) : Option Insertion :=
  let t := threshold i.bias i.rank
  let amount := i.amount + digit * i.weight
  if digit < t then i.insert? amount
  else some { i with amount, weight := i.weight * (36 - t), rank := i.rank + 1 }

end Insertion

/-- The part before the last hyphen, which is empty if there is none, and the part behind it. -/
def cutLast (ns : List Nat) : List Nat × List Nat :=
  let back := ns.reverse
  ((back.dropWhile (· != 0x2D)).drop 1 |>.reverse, (back.takeWhile (· != 0x2D)).reverse)

/-- Reads a label, given without its mark.  A hyphen at its start is no separator, and at least
one character has to be inserted. -/
def decode? (ns : List Nat) : Option (List Nat) := do
  let (ascii, written) := cutLast ns
  if ns.head? = some 0x2D ∧ ascii.isEmpty then none
  let digits ← written.mapM digitValue?
  let i ← digits.foldlM Insertion.step (Insertion.start ascii)
  if i.rank = 0 ∧ !i.first then some i.chars else none

/-! ## §3  Writing -/

/-- The digits of a number, starting with the digit of a rank. -/
def writeAmount (bias rank amount : Nat) : List Nat :=
  let t := threshold bias rank
  if amount < t then [digitCode amount]
  else
    digitCode (t + (amount - t) % (36 - t)) ::
      writeAmount bias (rank + 1) ((amount - t) / (36 - t))
termination_by amount
decreasing_by
  have := one_le_threshold bias rank
  exact Nat.lt_of_le_of_lt (Nat.div_le_self _ _) (by omega)

structure Writing where
  /-- The digits so far. -/
  digits : List Nat
  /-- How far the next character is from the last one. -/
  amount : Nat
  bias : Nat
  /-- How many characters are written. -/
  size : Nat
  /-- Whether no number is written yet. -/
  first : Bool

/-- Passes a character of the label while the characters `code` are written. -/
def Writing.pass (code : Nat) (w : Writing) (n : Nat) : Writing :=
  if n < code then { w with amount := w.amount + 1 }
  else if n = code then
    ⟨w.digits ++ writeAmount w.bias 0 w.amount, 0, adapt w.amount (w.size + 1) w.first, w.size + 1,
      false⟩
  else w

/-- Writes the characters of `codes`, which come in ascending order; those below `next` are
written. -/
def writeCodes (ns : List Nat) (next : Nat) (w : Writing) : List Nat → Writing
  | [] => w
  | code :: rest =>
      let w := { w with amount := w.amount + (code - next) * (w.size + 1) }
      let w := ns.foldl (Writing.pass code) w
      writeCodes ns (code + 1) { w with amount := w.amount + 1 } rest

def encode (ns : List Nat) : List Nat :=
  let ascii := ns.filter (· < 0x80)
  let codes := ((ns.filter (0x80 ≤ ·)).mergeSort (· ≤ ·)).eraseDups
  let written := writeCodes ns 0x80 ⟨[], 0, firstBias, ascii.length, true⟩ codes
  ascii ++ (if ascii.isEmpty then [] else [0x2D]) ++ written.digits

end ReplySchema.Domain.Punycode
