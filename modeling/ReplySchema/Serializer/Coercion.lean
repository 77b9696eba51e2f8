import ReplySchema.Json.Basic
import ReplySchema.Serializer.Rounding
import ReplySchema.Text.Blank

/-! # Coercion to the declared type

A serializer writes what the schema declares, whatever value it is given: anything has
a truth value and a text, and booleans, null and numeric text count as numbers.  Only
what cannot be read as a finite number is refused where a number is declared.

Numbers are written without an exponent here: a whole double below 10^21 by its exact
digits, any other by the fewest digits that read back.
-/

set_option autoImplicit false

namespace ReplySchema.Coercion

-- Powers are those of the core library, whatever else is imported.
attribute [local instance (high)] instPowNat

/-! ## §1  Truth -/

/-- Null, false, zero and the empty string are false, everything else is true. -/
def truthy : Json → Bool
  | .null => false
  | .bool b => b
  | .number n => !n.toBinary64.isZero
  | .string s => !s.isEmpty
  | .array _ => true
  | .object _ => true

/-! ## §2  Text -/

/-- Whether a double is below 9 · 10^18 in magnitude, and with it in the range of the integers of
64 bits. -/
def isCastable (x : Binary64) : Bool := x.isFinite && x.wholePart < 9000000000000000000

/-- A whole double by its exact digits.  As an integer it has no negative zero; greater ones are
written as doubles. -/
def wholeChars (x : Binary64) : List Char :=
  if isCastable x then Decimal.intChars x.toInt64 else Decimal.wholeChars x

/-- Whether a double is below 10^21 in magnitude. -/
def isModerate (x : Binary64) : Bool := x.wholePart < 10 ^ (21 : Nat)

def doubleChars (x : Binary64) : List Char :=
  if x.isWhole && isModerate x then wholeChars x else Decimal.plainChars x

def numberChars : Number → List Char
  | .int n => Decimal.intChars n
  | .float x => doubleChars x

mutual
/-- The text of a value: items are joined by commas, and an object has no text of its own. -/
def textOf : Json → String
  | .null => "null"
  | .bool true => "true"
  | .bool false => "false"
  | .number n => String.ofList (numberChars n)
  | .string s => s
  | .array items => Text.joinWith "," (itemTexts items)
  | .object _ => "[object Object]"

/-- The texts of items; that of null is empty. -/
def itemTexts : List Json → List String
  | [] => []
  | x :: rest => (if x.isNull then "" else textOf x) :: itemTexts rest
end

/-! ## §3  Numbers -/

/-- The finite double that a value which is no number counts as. -/
def doubleOf? : Json → Option Binary64
  | .null => some (Binary64.ofInt 0)
  | .bool b => some (Binary64.ofInt (if b then 1 else 0))
  | .string s =>
      let cs := Text.stripWhile Text.isBlank s.toList
      if cs.isEmpty then some (Binary64.ofInt 0)
      else (Decimal.read? cs).filter (·.isFinite)
  | _ => none

def integerChars? (rounding : Rounding) : Json → Option (List Char)
  | .number (.int n) => some (Decimal.intChars n)
  | .number (.float x) => if x.isFinite then some (wholeChars (rounding.apply x)) else none
  | v => (doubleOf? v).map fun x => wholeChars (rounding.apply x)

def numberChars? : Json → Option (List Char)
  | .number (.int n) => some (Decimal.intChars n)
  | .number (.float x) => if x.isFinite then some (doubleChars x) else none
  | v => (doubleOf? v).map doubleChars

end ReplySchema.Coercion
