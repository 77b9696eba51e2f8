import ReplySchema.Number.Decimal
import ReplySchema.Text.Blank

/-! # Dates, times and lengths of time

Dates and times have fields of fixed width.  A field of two digits is read leniently:
the six characters before the zero count as digits too, with the values ten to
fifteen, so the fields are bounded by their values and not by their spelling alone.
-/

set_option autoImplicit false

namespace ReplySchema.Validation.Format

/-! ## §1  Dates -/

/-- The value of a character in a field of fixed width: that of a digit, and ten to fifteen for
the six characters before the zero. -/
def fieldDigit? (c : Char) : Option Nat :=
  if 0x2A ≤ c.toNat ∧ c.toNat ≤ 0x39 then some (c.toNat % 16) else none

def field? (cs : List Char) : Option Nat :=
  (cs.mapM fieldDigit?).map fun ds => ds.foldl (fun n d => n * 10 + d) 0

def pair? (greatest : Nat) (a b : Char) : Option Nat :=
  (field? [a, b]).filter (· ≤ greatest)

def isLeapYear (year : Nat) : Bool := year % 4 == 0 && (year % 100 != 0 || year % 400 == 0)

def daysIn (year month : Nat) : Nat :=
  if month = 2 then if isLeapYear year then 29 else 28
  else if [4, 6, 9, 11].contains month then 30 else 31

/-- Year, month and day with four, two and two digits. -/
def isDate : List Char → Bool
  | [y1, y2, y3, y4, '-', m1, m2, '-', d1, d2] =>
      match field? [y1, y2, y3, y4], pair? 12 m1 m2, pair? 31 d1 d2 with
      | some year, some month, some day => 1 ≤ month && 1 ≤ day && day ≤ daysIn year month
      | _, _, _ => false
  | _ => false

/-! ## §2  Times -/

/-- An offset from universal time in minutes: `Z`, or a sign with hours and minutes. -/
def offset? : List Char → Option Int
  | [z] => if z = 'Z' ∨ z = 'z' then some 0 else none
  | [sign, h1, h2, ':', m1, m2] => do
      let minutes : Int := (← pair? 23 h1 h2) * 60 + (← pair? 59 m1 m2)
      if sign = '+' then some minutes else if sign = '-' then some (-minutes) else none
  | _ => none

/-- The offset behind an optional fraction of a second. -/
def zone : List Char → List Char
  | '.' :: rest =>
      if (rest.head?).any Char.isDigit then rest.dropWhile Char.isDigit else []
  | cs => cs

/-- A time of day with an offset.  A sixtieth second is one at the end of a universal day only. -/
def isTime : List Char → Bool
  | h1 :: h2 :: ':' :: m1 :: m2 :: ':' :: s1 :: s2 :: rest =>
      match pair? 23 h1 h2, pair? 59 m1 m2, pair? 60 s1 s2, offset? (zone rest) with
      | some hour, some minute, some second, some offset =>
          second ≤ 59 || ((hour * 60 + minute : Nat) - offset) % 1440 == 1439
      | _, _, _, _ => false
  | _ => false

def isDateTime (cs : List Char) : Bool :=
  let date := cs.takeWhile fun c => c != 'T' && c != 't'
  match cs.drop date.length with
  | _ :: time => isDate date && isTime time
  | [] => false

/-! ## §3  Lengths of time -/

def unitsOf? : Nat → List Char → Option (List Char)
  | _, [] => some []
  | 0, _ => none
  | n + 1, cs =>
      let ds := cs.takeWhile Char.isDigit
      match cs.drop ds.length with
      | unit :: rest => if ds.isEmpty then none else (unitsOf? n rest).map (unit :: ·)
      | [] => none

/-- Whether letters follow each other in a row of units without a gap. -/
def isRun : List Char → List Char → Bool
  | [], letters => letters.isEmpty
  | u :: units, letters => letters.isPrefixOf (u :: units) || isRun units letters

/-- A length of time: weeks, or a run of years to days, and a run of hours to seconds behind a
`T`. -/
def isDuration : List Char → Bool
  | 'P' :: rest =>
      let (date, time) := Text.cutAt 'T' rest
      match unitsOf? date.length date, (time.map fun t => unitsOf? t.length t).getD (some []) with
      | some dateUnits, some timeUnits =>
          (isRun ['Y', 'M', 'D'] dateUnits || dateUnits == ['W']) &&
            isRun ['H', 'M', 'S'] timeUnits &&
            if time.isSome then !timeUnits.isEmpty else !dateUnits.isEmpty
      | _, _ => false
  | _ => false

end ReplySchema.Validation.Format
