/-! # UTF-8 octets

Binary payloads are octets; their text view decodes them.  A decoder reads one
unit at a time: either a scalar value or a *maximal ill-formed piece*, the
longest run of octets that starts a sequence which the following octet does not
continue.  The strict reading refuses a text with such a piece, the lenient one
puts U+FFFD in its place.
-/

set_option autoImplicit false

namespace ReplySchema.Text.Utf8

-- Powers are those of the core library, whatever else is imported.
attribute [local instance (high)] instPowNat

def encode (s : String) : List UInt8 := s.toList.flatMap String.utf8EncodeChar

/-- For the first octet of a sequence: how many octets continue it, and between which
bounds the second octet must lie. -/
def lead (b : Nat) : Option (Nat × Nat × Nat) :=
  if 0xC2 ≤ b ∧ b ≤ 0xDF then some (1, 0x80, 0xBF)
  else if b = 0xE0 then some (2, 0xA0, 0xBF)
  else if b = 0xED then some (2, 0x80, 0x9F)
  else if 0xE1 ≤ b ∧ b ≤ 0xEF then some (2, 0x80, 0xBF)
  else if b = 0xF0 then some (3, 0x90, 0xBF)
  else if 0xF1 ≤ b ∧ b ≤ 0xF3 then some (3, 0x80, 0xBF)
  else if b = 0xF4 then some (3, 0x80, 0x8F)
  else none

def isTail (b : UInt8) : Bool := 0x80 ≤ b.toNat && b.toNat ≤ 0xBF

/-- Reads up to `n` continuing octets into `acc`.  The flag tells whether all were there. -/
def tails : Nat → Nat → List UInt8 → Bool × Nat × List UInt8
  | 0, acc, bytes => (true, acc, bytes)
  | _ + 1, acc, [] => (false, acc, [])
  | n + 1, acc, b :: rest =>
      if isTail b then tails n (acc * 64 + (b.toNat - 0x80)) rest else (false, acc, b :: rest)

theorem tails_length (n acc : Nat) (bytes : List UInt8) :
    (tails n acc bytes).2.2.length ≤ bytes.length := by
  induction n generalizing acc bytes with
  | zero => simp [tails]
  | succ n ih =>
      cases bytes with
      | nil => simp [tails]
      | cons b rest =>
          by_cases h : isTail b
          · simpa [tails, h] using Nat.le_succ_of_le (ih _ rest)
          · simp [tails, h]

/-- Reads the unit that starts with the octet `b`: a character, or nothing for an
ill-formed piece, with the octets behind it. -/
def unit (b : UInt8) (rest : List UInt8) : Option Char × List UInt8 :=
  if b.toNat < 0x80 then (some (Char.ofNat b.toNat), rest)
  else
    match lead b.toNat, rest with
    | none, _ => (none, rest)
    | some _, [] => (none, [])
    | some (n, lo, hi), c :: more =>
        if lo ≤ c.toNat ∧ c.toNat ≤ hi then
          let start := b.toNat % (2 ^ (6 - n))
          let r := tails (n - 1) (start * 64 + (c.toNat - 0x80)) more
          (if r.1 then some (Char.ofNat r.2.1) else none, r.2.2)
        else (none, rest)

theorem unit_length (b : UInt8) (rest : List UInt8) :
    (unit b rest).2.length ≤ rest.length := by
  unfold unit
  split
  · exact Nat.le_refl _
  · split
    · exact Nat.le_refl _
    · exact Nat.le_refl _
    · split
      · exact Nat.le_succ_of_le (tails_length _ _ _)
      · exact Nat.le_refl _

/-- The units of an octet sequence in order; an ill-formed piece counts as `none`. -/
def units : List UInt8 → List (Option Char)
  | [] => []
  | b :: rest => (unit b rest).1 :: units (unit b rest).2
termination_by bytes => bytes.length
decreasing_by exact Nat.lt_succ_of_le (unit_length b rest)

/-- The text that the octets encode, if they are well formed. -/
def decode? (bytes : List UInt8) : Option String :=
  ((units bytes).mapM id).map String.ofList

/-- The text of the octets, with U+FFFD for each ill-formed piece. -/
def decodeLenient (bytes : List UInt8) : String :=
  String.ofList ((units bytes).map (·.getD '\uFFFD'))

end ReplySchema.Text.Utf8
