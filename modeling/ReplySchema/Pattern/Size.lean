import ReplySchema.Pattern.Meaning
import ReplySchema.Pattern.Reader

/-! # The size of a pattern

Counts and classes can make a short text stand for a machine of enormous size.  A
pattern counts as too large if the machine that matches it, forwards or backwards over
the octets of UTF-8, would need more than ten mebibytes.  Only the size of that machine
is computed here, not the machine: each state costs thirty-two octets, each transition
of a state with several eight more, and each way of a fork four.

A set of characters is a machine of its own, over the octets of its members.  Forwards
states with the same continuation are shared.  Backwards the last octet comes first, and
what stands behind it is shared.

A text is a plain pattern if it can be read, has a meaning, and its machine is small (`read?`).
-/

set_option autoImplicit false

namespace ReplySchema.Pattern

-- Powers and sums are those of the core library, whatever else is imported.
attribute [local instance (high)] instPowNat Zero.ofOfNat0

/-- Sizes of a machine that goes forwards and of one that goes backwards. -/
structure Size where
  forward : Nat
  backward : Nat

namespace Size

instance : Add Size := ⟨fun a b => ⟨a.forward + b.forward, a.backward + b.backward⟩⟩

def times (n : Nat) (a : Size) : Size := ⟨n * a.forward, n * a.backward⟩

def both (n : Nat) : Size := ⟨n, n⟩

end Size

def stateSize : Nat := 32

/-- The octets of a transition of a state that has several. -/
def transitionSize : Nat := 8

def waySize : Nat := 4

/-! ## §1  Rows of octets -/

/-- A row of octet ranges, which stands for a set of characters of one length. -/
abbrev OctetRow := List (Nat × Nat)

def octetsOf (length n : Nat) : List Nat :=
  match length with
  | 1 => [n]
  | 2 => [0xC0 + n / 0x40, 0x80 + n % 0x40]
  | 3 => [0xE0 + n / 0x1000, 0x80 + n / 0x40 % 0x40, 0x80 + n % 0x40]
  | _ =>
      [0xF0 + n / 0x40000, 0x80 + n / 0x1000 % 0x40, 0x80 + n / 0x40 % 0x40, 0x80 + n % 0x40]

/-- The rows of a range of code points of so many octets.  A range whose ends differ above its
last `k` continuation octets is cut where these run over, until each part covers whole runs. -/
def rowsWithin (length : Nat) : Nat → Nat → Nat → Nat → List OctetRow
  | 0, _, low, high => [(octetsOf length low).zip (octetsOf length high)]
  | _, 0, low, high => [(octetsOf length low).zip (octetsOf length high)]
  | fuel + 1, k + 1, low, high =>
      let run := 0x40 ^ (length - (k + 1))
      if low / run = high / run then rowsWithin length fuel k low high
      else if low % run ≠ 0 then
        rowsWithin length fuel (k + 1) low (low / run * run + run - 1) ++
          rowsWithin length fuel (k + 1) (low / run * run + run) high
      else if high % run ≠ run - 1 then
        rowsWithin length fuel (k + 1) low (high / run * run - 1) ++
          rowsWithin length fuel (k + 1) (high / run * run) high
      else rowsWithin length fuel k low high

def lengthRanges : List (Nat × Nat × Nat) :=
  [(1, 0, 0x7F), (2, 0x80, 0x7FF), (3, 0x800, 0xD7FF), (3, 0xE000, 0xFFFF), (4, 0x10000, 0x10FFFF)]

def rowsOf (set : CharSet) : List OctetRow :=
  set.flatMap fun r =>
    lengthRanges.flatMap fun (length, first, last) =>
      let low := max r.1 first
      let high := min r.2 last
      if low ≤ high then rowsWithin length 64 (length - 1) low high else []

/-! ## §2  Machines of sets -/

/-- A state of the machine of a set: its transitions, each with the number of the state behind. -/
abbrev OctetState := List ((Nat × Nat) × Nat)

/-- Rows with their first ranges, neighbouring rows with one first range together. -/
def groupRows : List OctetRow → List ((Nat × Nat) × List OctetRow)
  | [] => []
  | [] :: rest => groupRows rest
  | (head :: tail) :: rest =>
      match groupRows rest with
      | (h, tails) :: more =>
          if h = head then (h, tail :: tails) :: more else (head, [tail]) :: (h, tails) :: more
      | [] => [(head, [tail])]

def number (s : OctetState) : StateM (List OctetState) Nat := do
  let known ← get
  let i := known.reverse.idxOf s
  if i < known.length then pure (i + 1)
  else
    set (s :: known)
    pure (known.length + 1)

/-- The state for rows of at most so many octets; rows that are used up lead to state zero. -/
def stateOf : Nat → List OctetRow → StateM (List OctetState) Nat
  | 0, _ => pure 0
  | n + 1, rows => do
      match groupRows rows with
      | [] => pure 0
      | groups => number (← groups.mapM fun g => return (g.1, ← stateOf n g.2))

def sizeOfState (transitions : Nat) : Nat :=
  stateSize + if transitions = 1 then 0 else transitionSize * transitions

/-- The size of the forward machine of a set beyond ASCII. -/
def forwardSize (set : CharSet) : Nat :=
  let states := ((stateOf 4 (rowsOf set)).run []).2
  stateSize + (states.map fun s => sizeOfState s.length).sum

def frontCount : Nat → List OctetRow → Nat
  | 0, _ => 0
  | n + 1, rows => ((groupRows rows).map fun g => frontCount n g.2 + 1).sum

/-- The size of the backward machine of a set beyond ASCII: a fork with a way for each row, a state
for each different front of a row, and the end. -/
def backwardSize (set : CharSet) : Nat :=
  let rows := rowsOf set
  2 * stateSize + waySize * rows.length + stateSize * frontCount 4 rows

def setSize (set : CharSet) : Size :=
  match CharSet.single? set with
  | some n =>
      let length := if n < 0x80 then 1 else if n < 0x800 then 2 else if n < 0x10000 then 3 else 4
      .both (stateSize * length)
  | none =>
      if CharSet.isAscii set then
        if set.isEmpty then .both stateSize else .both (sizeOfState set.length + stateSize)
      else ⟨forwardSize set, backwardSize set⟩

/-! ## §3  Patterns -/

def forkSize : Size := .both (stateSize + 2 * waySize)

def mayTakeNothing : Pattern → Bool
  | .empty => true
  | .char _ => false
  | .seq a b => mayTakeNothing a && mayTakeNothing b
  | .alt a b => mayTakeNothing a || mayTakeNothing b
  | .repeated a least _ _ => least == 0 || mayTakeNothing a
  | .group _ a => mayTakeNothing a
  | .edge _ => true

def roundsSize (nothing : Bool) (least : Nat) (most : Option Nat) (a : Size) : Size :=
  match most with
  | some m =>
      .times least a + if m = least then .both 0 else
        .both stateSize + .times (m - least) (a + forkSize)
  | none =>
      if least = 0 then if nothing then a + forkSize + forkSize + .both stateSize else a + forkSize
      else .times least a + forkSize

def size (ofSet : CharSet → Size) : Pattern → Size
  | .empty => .both stateSize
  | .char set => ofSet set
  | .seq a b => a.size ofSet + b.size ofSet
  | .alt a (.alt b c) => a.size ofSet + .both waySize + (Pattern.alt b c).size ofSet
  | .alt a b => a.size ofSet + b.size ofSet + .both (2 * stateSize + 2 * waySize)
  | .repeated a least most _ => roundsSize (mayTakeNothing a) least most (a.size ofSet)
  | .group _ a => a.size ofSet + ⟨2 * stateSize, 0⟩
  | .edge _ => .both stateSize

def sizeLimit : Nat := 10 * 2 ^ (20 : Nat)

def Size.isSmall (s : Size) : Bool := s.forward ≤ sizeLimit && s.backward ≤ sizeLimit

/-- More than the size of any set: a range has at most eight rows of four octets on each of five
lengths. -/
def roughSetSize (set : CharSet) : Size := .both (3 * stateSize + 2048 * set.length)

/-- Whether a pattern is small enough.  The rough sizes of sets decide in nearly all cases. -/
def isSmall (p : Pattern) : Bool := (p.size roughSetSize).isSmall || (p.size setSize).isSmall

def read? (text : String) : Option Pattern := do
  let tree ← (Tree.read text).toOption
  let (pattern, _) ← tree.meaning? {}
  if pattern.isSmall then some pattern else none

end ReplySchema.Pattern
