import ReplySchema.Number.Decimal

/-! # Decimal numbers read step by step

A quick reader of decimal numbers gathers digits as long as they fit 64 bits, turns what it
has into a double, and then multiplies or divides by a power of ten.  Each of these steps
rounds, so the result can be a neighbour of the nearest double.  Digits that no longer fit
are left out; those before the point still count for the exponent.
-/

set_option autoImplicit false

namespace ReplySchema

-- Powers are those of the core library, whatever else is imported.
attribute [local instance (high)] instPowNat

/-! ## §1  Products and quotients of doubles -/

/-- The product of two finite values, rounded once. -/
def Binary64.mul (x y : Binary64) : Binary64 :=
  match x.toScaled, y.toScaled with
  | some (a, i), some (b, j) => ofScaled (a * b) (i + j)
  | _, _ => nan

/-- The quotient of two positive finite values, rounded once. -/
def Binary64.div (x y : Binary64) : Binary64 :=
  match x.toScaled, y.toScaled with
  | some (a, i), some (b, j) =>
      let (num, den) := scale a.natAbs (i - j)
      ofRatio false num (den * b.natAbs)
  | _, _ => nan

def Binary64.signed (negative : Bool) : Binary64 → Binary64
  | finite n m e => finite (n != negative) m e
  | infinite n => infinite (n != negative)
  | nan => nan

namespace Decimal.Stepwise

/-! ## §2  Digits that fit -/

def limit : Nat := 2 ^ (64 : Nat)

/-- Gathers digits before the point; also counts those that are left out. -/
def gatherWhole (acc : Nat) : List Char → Nat × Nat
  | [] => (acc, 0)
  | c :: rest =>
      let n := acc * 10 + ofDigits [c]
      if n < limit then gatherWhole n rest else (acc, rest.length + 1)

/-- Gathers digits behind the point; also counts those that are taken. -/
def gatherFraction (acc : Nat) : List Char → Nat × Nat
  | [] => (acc, 0)
  | c :: rest =>
      let n := acc * 10 + ofDigits [c]
      if n < limit then
        let (all, taken) := gatherFraction n rest
        (all, taken + 1)
      else (acc, 0)

/-! ## §3  Scaling -/

def greatestPower : Nat := 308

def power (n : Nat) : Binary64 := Binary64.ofDecimal false 1 n

/-- Scales a value that is not negative by a power of ten; a value that would overflow is
refused.  `fuel` counts the divisions by the greatest power. -/
def scaleBy? : Nat → Binary64 → Int → Option Binary64
  | 0, _, _ => none
  | fuel + 1, x, e =>
      if e.natAbs ≤ greatestPower then
        if 0 ≤ e then
          let y := x.mul (power e.toNat)
          if y.isFinite then some y else none
        else some (x.div (power (-e).toNat))
      else if x.isZero then some x
      else if 0 ≤ e then none
      else scaleBy? fuel (x.div (power greatestPower)) (e + greatestPower)

/-- The greatest exponent that is read; a greater one makes zero or is refused. -/
def greatestExponent : Nat := 2 ^ (31 : Nat) - 1

def ofParts? (negative : Bool) (whole fraction : List Char) (exponent : Int) : Option Binary64 :=
  let (n, left) := gatherWhole 0 whole
  let (n, taken) := gatherFraction n fraction
  if greatestExponent < exponent.natAbs then
    if 0 < exponent ∧ n ≠ 0 then none else some (.zero negative)
  else
    (scaleBy? 4 (Binary64.ofNat false n) (exponent + left - taken)).map (·.signed negative)

end Decimal.Stepwise

end ReplySchema
