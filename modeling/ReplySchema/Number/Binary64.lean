/-! # Double precision numbers as exact values

Fractional numbers are IEEE 754 binary64 values.  A finite one is kept as what it
*is*, a sign with `mantissa * 2 ^ exponent`, so that every operation here is exact
integer arithmetic followed by one rounding.  The rounding, `ofRatio`, takes a
quotient to the nearest 53-bit number, a half going to the even neighbour, with
gradual underflow and with overflow to infinity.  It is the only place that builds
finite values, so they are all of one form: zero, or a mantissa of 53 bits, or a
shorter one with the least exponent.
-/

set_option autoImplicit false

namespace ReplySchema

-- Powers are those of the core library, whatever else is imported.
attribute [local instance (high)] instPowNat

/-- A binary64 datum; `finite n m e` stands for `m * 2 ^ e` with the sign of `n`. -/
inductive Binary64 where
  | finite (negative : Bool) (mantissa : Nat) (exponent : Int)
  | infinite (negative : Bool)
  | nan
deriving DecidableEq, Repr

namespace Binary64

def leastExponent : Int := -1074

def greatestExponent : Int := 971

def zero (negative : Bool) : Binary64 := finite negative 0 leastExponent

/-! ## §1  Rounding a quotient -/

/-- `num * 2 ^ shift` as a quotient of natural numbers. -/
def scale (num : Nat) (shift : Int) : Nat × Nat :=
  if 0 ≤ shift then (num * 2 ^ shift.toNat, 1) else (num, 2 ^ (-shift).toNat)

/-- The quotient rounded to a natural number, a half going to the even neighbour. -/
def divNearestEven (num den : Nat) : Nat :=
  let q := num / den
  let r := num % den
  if 2 * r < den then q
  else if den < 2 * r then q + 1
  else if q % 2 = 0 then q else q + 1

/-- The exponent `k` with `2 ^ k ≤ num / den < 2 ^ (k + 1)`, for positive numbers. -/
def log2Ratio (num den : Nat) : Int :=
  let k : Int := (num.log2 : Int) - (den.log2 : Int)
  let below :=
    if 0 ≤ k then num < den * 2 ^ k.toNat else num * 2 ^ (-k).toNat < den
  if below then k - 1 else k

/-- The binary64 value nearest to `num / den`, ties to even. -/
def ofRatio (negative : Bool) (num den : Nat) : Binary64 :=
  if num = 0 then zero negative
  else
    let e := max leastExponent (log2Ratio num den - 52)
    let m :=
      if 0 ≤ e then divNearestEven num (den * 2 ^ e.toNat)
      else divNearestEven (num * 2 ^ (-e).toNat) den
    let (m, e) := if m = 2 ^ (53 : Nat) then (2 ^ (52 : Nat), e + 1) else (m, e)
    if greatestExponent < e then infinite negative
    else if m = 0 then zero negative
    else finite negative m e

/-- The value nearest to `n * 2 ^ e`; a zero is positive. -/
def ofScaled (n e : Int) : Binary64 :=
  let (num, den) := scale n.natAbs e
  ofRatio (n < 0) num den

/-- The value nearest to a natural number, with the given sign. -/
def ofNat (negative : Bool) (n : Nat) : Binary64 := ofRatio negative n 1

def ofInt (n : Int) : Binary64 := ofScaled n 0

/-- The value nearest to `coefficient * 10 ^ exponent`.  Far outside the range of
finite values the answer is known without computing the power. -/
def ofDecimal (negative : Bool) (coefficient : Nat) (exponent : Int) : Binary64 :=
  let magnitude : Int := (coefficient.log2 : Int) * 30103 / 100000 + exponent
  if coefficient = 0 then zero negative
  else if 400 < magnitude then infinite negative
  else if magnitude < -400 then zero negative
  else if 0 ≤ exponent then ofRatio negative (coefficient * 10 ^ exponent.toNat) 1
  else ofRatio negative coefficient (10 ^ (-exponent).toNat)

/-! ## §2  Questions about a value -/

def isFinite : Binary64 → Bool
  | finite .. => true
  | _ => false

def isZero : Binary64 → Bool
  | finite _ m _ => m == 0
  | _ => false

def isWhole : Binary64 → Bool
  | finite _ m e => 0 ≤ e || m % 2 ^ (-e).toNat == 0
  | _ => false

/-- The signed mantissa and the exponent of a finite value. -/
def toScaled : Binary64 → Option (Int × Int)
  | finite n m e => some (if n then -(m : Int) else m, e)
  | _ => none

/-- The magnitude of a finite value without its fraction. -/
def wholePart : Binary64 → Nat
  | finite _ m e => if 0 ≤ e then m * 2 ^ e.toNat else m / 2 ^ (-e).toNat
  | _ => 0

/-- The least and the greatest integer of 64 bits with a sign. -/
def leastInt64 : Int := -9223372036854775808

def greatestInt64 : Int := 9223372036854775807

/-- The value as an integer of 64 bits: without its fraction, and the nearest of them if it is out
of their range. -/
def toInt64 : Binary64 → Int
  | finite negative m e =>
      let n : Int := (finite negative m e).wholePart
      max leastInt64 (min greatestInt64 (if negative then -n else n))
  | infinite negative => if negative then leastInt64 else greatestInt64
  | nan => 0

/-- Compares two numbers of the form `n * 2 ^ e`. -/
def compareScaled (a b : Int × Int) : Ordering :=
  let e := min a.2 b.2
  compare (a.1 * 2 ^ (a.2 - e).toNat) (b.1 * 2 ^ (b.2 - e).toNat)

/-- Numeric equality: the two zeros are equal, and nothing equals a NaN. -/
def numericEq : Binary64 → Binary64 → Bool
  | infinite a, infinite b => a == b
  | a, b =>
      match a.toScaled, b.toScaled with
      | some x, some y => compareScaled x y == .eq
      | _, _ => false

/-! ## §3  Whole numbers near a value -/

/-- Rounds a finite value to a whole number, away from zero if `up` says so of a value
with a fraction; the sign stays, also of a zero. -/
def toWhole (up : Bool → Bool) : Binary64 → Binary64
  | finite n m e =>
      if 0 ≤ e then finite n m e
      else
        let q := m / 2 ^ (-e).toNat
        ofNat n (if m % 2 ^ (-e).toNat != 0 && up n then q + 1 else q)
  | x => x

def trunc : Binary64 → Binary64 := toWhole fun _ => false

def ceil : Binary64 → Binary64 := toWhole fun negative => !negative

def floor : Binary64 → Binary64 := toWhole fun negative => negative

/-- The sum with one half, rounded once. -/
def addHalf : Binary64 → Binary64
  | finite n m e =>
      let s : Int := if n then -(m : Int) else m
      if e ≤ -1 then ofScaled (s + 2 ^ (-1 - e).toNat) e
      else ofScaled (s * 2 ^ (e + 1).toNat + 1) (-1)
  | x => x

end Binary64

end ReplySchema
