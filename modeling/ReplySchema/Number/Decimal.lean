import ReplySchema.Number.Binary64

/-! # Decimal text of numbers

Writing: the fewest decimal digits that read back as the same double, the nearest
such decimal if there are several.  They are found by trying 1, 2, … 17 digits: on
each decimal grid only the two neighbours of the value can read back, if any point
of the grid does.  Where the digits go (positional or with an exponent) is a
decision of the format that writes them, so this module offers both layouts.

Reading: an optional sign, digits with an optional point, an optional exponent, or
one of the words for infinity and "not a number".
-/

set_option autoImplicit false

namespace ReplySchema.Decimal

-- Powers are those of the core library, whatever else is imported.
attribute [local instance (high)] instPowNat

/-! ## §1  Digits -/

def digits (n : Nat) : List Char := Nat.toDigits 10 n

def ofDigits (cs : List Char) : Nat := Nat.ofDigitChars 10 cs 0

theorem ofDigits_digits (n : Nat) : ofDigits (digits n) = n :=
  Nat.ofDigitChars_toDigits (by decide) (by decide)

theorem isDigit_of_mem_digits {n : Nat} {c : Char} (h : c ∈ digits n) : c.isDigit = true :=
  Nat.isDigit_of_mem_toDigits (by decide) (by decide) h

def ofNat (n : Nat) : String := String.ofList (digits n)

/-- The characters of an integer: a minus sign for a negative one, then the digits. -/
def intChars (n : Int) : List Char :=
  if n < 0 then '-' :: digits n.natAbs else digits n.natAbs

def ofInt (n : Int) : String := String.ofList (intChars n)

/-- The natural number written with decimal digits alone, at least one. -/
def natOf? (cs : List Char) : Option Nat :=
  if cs.isEmpty || !cs.all Char.isDigit then none else some (ofDigits cs)

/-- Reads an unsigned number with an optional plus sign, up to a greatest value. -/
def boundedOf? (greatest : Nat) (cs : List Char) : Option Nat := do
  let body := match cs with
    | '+' :: rest => rest
    | _ => cs
  let n ← natOf? body
  if n ≤ greatest then some n else none

/-! ## §2  The fewest digits that read back -/

/-- A positive decimal `coefficient * 10 ^ exponent`. -/
structure Scientific where
  coefficient : Nat
  exponent : Int
deriving DecidableEq, Repr

/-- `num / den` divided by `10 ^ s`, as a quotient of natural numbers. -/
def scaleDown (num den : Nat) (s : Int) : Nat × Nat :=
  if 0 ≤ s then (num, den * 10 ^ s.toNat) else (num * 10 ^ (-s).toNat, den)

/-- The exponent `k` with `10 ^ k ≤ num / den < 10 ^ (k + 1)`, for positive numbers:
an estimate from the binary logarithm, off by one at most. -/
def log10Ratio (num den : Nat) : Int :=
  let k := (Binary64.log2Ratio num den * 30103) / 100000
  let below (s : Int) : Bool :=
    let (n, d) := scaleDown num den s
    n < d
  if below k then k - 1 else if below (k + 1) then k else k + 1

/-- Of the two neighbours of `num / den` on the grid of multiples of `10 ^ s`, the nearest
that reads back as `x`; an exact tie goes to the even one. -/
def neighbour (x : Binary64) (num den : Nat) (s : Int) : Option Scientific :=
  let (n, d) := scaleDown num den s
  let lo := n / d
  let r := n % d
  let readsBack (c : Nat) : Bool := Binary64.ofDecimal false c s == x
  let loFirst := 2 * r < d || (2 * r == d && lo % 2 == 0)
  if loFirst then
    if readsBack lo then some ⟨lo, s⟩ else if readsBack (lo + 1) then some ⟨lo + 1, s⟩ else none
  else
    if readsBack (lo + 1) then some ⟨lo + 1, s⟩ else if readsBack lo then some ⟨lo, s⟩ else none

/-- Tries `n`, `n + 1`, … digits; `fuel` counts the tries that are left. -/
def firstHit (x : Binary64) (num den : Nat) (k : Int) : Nat → Nat → Option Scientific
  | 0, _ => none
  | fuel + 1, n =>
      match neighbour x num den (k - n + 1) with
      | some hit => some hit
      | none => firstHit x num den k fuel (n + 1)

/-- The same decimal without zeros at the end of its coefficient. -/
def Scientific.trimmed (x : Scientific) : Scientific :=
  let zeros := ((digits x.coefficient).reverse.takeWhile (· == '0')).length
  ⟨x.coefficient / 10 ^ zeros, x.exponent + zeros⟩

/-- The shortest decimal that reads back as `mantissa * 2 ^ exponent`, for a positive value.
A neighbour above can be a power of ten, which has fewer digits than were tried. -/
def shortest (mantissa : Nat) (exponent : Int) : Scientific :=
  let (num, den) := Binary64.scale mantissa exponent
  match firstHit (.finite false mantissa exponent) num den (log10Ratio num den) 17 1 with
  | some hit => hit.trimmed
  | none => ⟨mantissa, exponent⟩

/-- The power of ten of the first digit. -/
def Scientific.magnitude (x : Scientific) : Int :=
  (digits x.coefficient).length - 1 + x.exponent

/-! ## §3  Layouts -/

/-- Digits with a point and no exponent; a whole number has no point. -/
def Scientific.positional (x : Scientific) : List Char :=
  let ds := digits x.coefficient
  if 0 ≤ x.exponent then ds ++ List.replicate x.exponent.toNat '0'
  else
    let fraction := (-x.exponent).toNat
    if fraction < ds.length then
      ds.take (ds.length - fraction) ++ '.' :: ds.drop (ds.length - fraction)
    else '0' :: '.' :: List.replicate (fraction - ds.length) '0' ++ ds

/-- One digit before the point, and the exponent with its sign. -/
def Scientific.exponential (x : Scientific) : List Char :=
  let ds := digits x.coefficient
  let k := x.magnitude
  let body := match ds with
    | d :: [] => [d]
    | d :: rest => d :: '.' :: rest
    | [] => []
  body ++ 'e' :: (if k < 0 then '-' else '+') :: digits k.natAbs

/-- A double with the fewest digits and never an exponent.  The words for the values
that are not finite belong to this layout too. -/
def plainChars : Binary64 → List Char
  | .finite negative m e =>
      (if negative then ['-'] else []) ++
        if m = 0 then ['0'] else (shortest m e).positional
  | .infinite negative => (if negative then ['-'] else []) ++ "inf".toList
  | .nan => "NaN".toList

/-- All digits of a value that has no fraction, behind its sign. -/
def wholeChars : Binary64 → List Char
  | .finite negative m e =>
      (if negative then ['-'] else []) ++ digits (Binary64.finite negative m e).wholePart
  | x => plainChars x

def plain (x : Binary64) : String := String.ofList (plainChars x)

/-! ## §4  Reading -/

def takeDigits (cs : List Char) : List Char × List Char :=
  (cs.takeWhile Char.isDigit, cs.dropWhile Char.isDigit)

/-- Takes an optional sign; the flag tells of a minus. -/
def takeSign : List Char → Bool × List Char
  | '-' :: rest => (true, rest)
  | '+' :: rest => (false, rest)
  | cs => (false, cs)

/-- Reads the exponent of a number to its end: nothing, or `e`, a sign and digits. -/
def exponentOf? : List Char → Option Int
  | [] => some 0
  | c :: rest =>
      if c = 'e' ∨ c = 'E' then
        let (negative, ds) := takeSign rest
        (natOf? ds).map fun n => if negative then -(n : Int) else n
      else none

/-- Reads digits with an optional point and exponent, to the end of the text. -/
def magnitudeOf? (negative : Bool) (cs : List Char) : Option Binary64 :=
  let (whole, rest) := takeDigits cs
  let (fraction, tail) := match rest with
    | '.' :: more => takeDigits more
    | _ => ([], rest)
  if whole.isEmpty && fraction.isEmpty then none
  else
    (exponentOf? tail).map fun k =>
      Binary64.ofDecimal negative (ofDigits (whole ++ fraction)) (k - fraction.length)

/-- Reads a number: decimal, or `inf`, `infinity` and `nan` in any case. -/
def read? (cs : List Char) : Option Binary64 :=
  let (negative, body) := takeSign cs
  let word := String.ofList (body.map Char.toLower)
  if word = "inf" ∨ word = "infinity" then some (.infinite negative)
  else if word = "nan" then some .nan
  else magnitudeOf? negative body

end ReplySchema.Decimal
