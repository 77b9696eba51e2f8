import ReplySchema.Json.Basic
import ReplySchema.Number.Stepwise

/-! # Reading JSON text

The reader takes exactly the JSON grammar: blanks are space, tab, line feed and
carriage return; numbers have no leading zeros; control characters do not stand in
strings; a surrogate escape needs its partner.  Containers may be nested up to a
given depth.  An integer that fits 64 bits, signed or unsigned, is kept as an
integer, any other number is a double; `-0` is the negative zero, and a double that
would overflow is refused.  A text is read with one of two rules for doubles: the
nearest one, or the one that the steps of `Decimal.Stepwise` lead to.

Each function takes a fuel that bounds the calls on the way down.  Every call reads
at least one character, so the length of the text is fuel enough; `read?` supplies
it.
-/

set_option autoImplicit false

namespace ReplySchema.Json

-- Powers are those of the core library, whatever else is imported.
attribute [local instance (high)] instPowNat

def isSpace (c : Char) : Bool := c == ' ' || c == '\t' || c == '\n' || c == '\r'

def skipSpaces (cs : List Char) : List Char := cs.dropWhile isSpace

/-! ## §1  Numbers -/

/-- Takes the whole part of a number: one zero, or digits that do not start with zero. -/
def takeWhole : List Char → Option (List Char × List Char)
  | '0' :: rest =>
      match rest with
      | c :: _ => if c.isDigit then none else some (['0'], rest)
      | [] => some (['0'], [])
  | cs =>
      let (ds, rest) := Decimal.takeDigits cs
      if ds.isEmpty then none else some (ds, rest)

/-- Takes an optional fraction; the digits behind the point. -/
def takeFraction : List Char → Option (Option (List Char) × List Char)
  | '.' :: rest =>
      let (ds, rest) := Decimal.takeDigits rest
      if ds.isEmpty then none else some (some ds, rest)
  | cs => some (none, cs)

def takeExponent : List Char → Option (Option Int × List Char)
  | c :: rest =>
      if c = 'e' ∨ c = 'E' then
        let (negative, body) := Decimal.takeSign rest
        let (ds, rest) := Decimal.takeDigits body
        if ds.isEmpty then none
        else
          let n := (Decimal.ofDigits ds : Int)
          some (some (if negative then -n else n), rest)
      else some (none, c :: rest)
  | [] => some (none, [])

/-- How a number that is no integer becomes a double. -/
inductive Rule where
  | nearest
  | stepwise
deriving DecidableEq

/-- The double with this sign, whole part, fraction and exponent; infinities are refused. -/
def Rule.doubleOf? (rule : Rule) (negative : Bool) (whole fraction : List Char)
    (exponent : Int) : Option Binary64 :=
  match rule with
  | nearest =>
      let x := Binary64.ofDecimal negative (Decimal.ofDigits (whole ++ fraction))
        (exponent - fraction.length)
      if x.isFinite then some x else none
  | stepwise => Decimal.Stepwise.ofParts? negative whole fraction exponent

def numberOf? (rule : Rule) (negative : Bool) (whole : List Char) (fraction : Option (List Char))
    (exponent : Option Int) : Option Number :=
  let double := (rule.doubleOf? negative whole (fraction.getD []) (exponent.getD 0)).map .float
  match fraction, exponent with
  | none, none =>
      let n := Decimal.ofDigits whole
      if negative then if 0 < n ∧ n ≤ 2 ^ (63 : Nat) then some (.int (-n)) else double
      else if n < 2 ^ (64 : Nat) then some (.int n)
      else double
  | _, _ => double

def takeNumber (rule : Rule) (cs : List Char) : Option (Number × List Char) := do
  let (negative, body) := match cs with
    | '-' :: rest => (true, rest)
    | _ => (false, cs)
  let (whole, rest) ← takeWhole body
  let (fraction, rest) ← takeFraction rest
  let (exponent, rest) ← takeExponent rest
  return (← numberOf? rule negative whole fraction exponent, rest)

/-! ## §2  Strings -/

def hexValue? (c : Char) : Option Nat :=
  if c.isDigit then some (c.toNat - '0'.toNat)
  else if 'a' ≤ c ∧ c ≤ 'f' then some (c.toNat - 'a'.toNat + 10)
  else if 'A' ≤ c ∧ c ≤ 'F' then some (c.toNat - 'A'.toNat + 10)
  else none

def takeHex4 : List Char → Option (Nat × List Char)
  | a :: b :: c :: d :: rest => do
      return ((← hexValue? a) * 4096 + (← hexValue? b) * 256 + (← hexValue? c) * 16
        + (← hexValue? d), rest)
  | _ => none

/-- Takes the character of a `\u` escape behind its letter, and of the partner escape if the
first half of a pair is there. -/
def takeUnicode (cs : List Char) : Option (Char × List Char) := do
  let (n, rest) ← takeHex4 cs
  if 0xD800 ≤ n ∧ n < 0xDC00 then
    match rest with
    | '\\' :: 'u' :: more =>
        let (m, rest) ← takeHex4 more
        if 0xDC00 ≤ m ∧ m < 0xE000 then
          return (Char.ofNat (0x10000 + (n - 0xD800) * 0x400 + (m - 0xDC00)), rest)
        else none
    | _ => none
  else if 0xDC00 ≤ n ∧ n < 0xE000 then none
  else return (Char.ofNat n, rest)

def takeEscape : List Char → Option (Char × List Char)
  | '"' :: rest => some ('"', rest)
  | '\\' :: rest => some ('\\', rest)
  | '/' :: rest => some ('/', rest)
  | 'b' :: rest => some ('\x08', rest)
  | 'f' :: rest => some ('\x0c', rest)
  | 'n' :: rest => some ('\n', rest)
  | 'r' :: rest => some ('\r', rest)
  | 't' :: rest => some ('\t', rest)
  | 'u' :: rest => takeUnicode rest
  | _ => none

/-- Takes the characters of a string behind its opening quote; `acc` holds them backwards. -/
def takeString : Nat → List Char → List Char → Option (String × List Char)
  | 0, _, _ => none
  | _ + 1, _, [] => none
  | fuel + 1, acc, c :: rest =>
      if c = '"' then some (String.ofList acc.reverse, rest)
      else if c = '\\' then (takeEscape rest).bind fun p => takeString fuel (p.1 :: acc) p.2
      else if c.toNat < 0x20 then none
      else takeString fuel (c :: acc) rest

/-! ## §3  Values -/

def takeWord (word : List Char) (v : Json) (cs : List Char) : Option (Json × List Char) :=
  if word.isPrefixOf cs then some (v, cs.drop word.length) else none

mutual
/-- Takes a value; `depth` containers may still be opened. -/
def takeValue (rule : Rule) : Nat → Nat → List Char → Option (Json × List Char)
  | 0, _, _ => none
  | fuel + 1, depth, cs =>
      match skipSpaces cs with
      | [] => none
      | c :: rest =>
          if c = '"' then (takeString fuel [] rest).map fun p => (string p.1, p.2)
          else if c = '[' then
            match depth with
            | 0 => none
            | depth + 1 =>
                match skipSpaces rest with
                | ']' :: more => some (array [], more)
                | more => (takeItems rule fuel depth [] more).map fun p => (array p.1, p.2)
          else if c = '{' then
            match depth with
            | 0 => none
            | depth + 1 =>
                match skipSpaces rest with
                | '}' :: more => some (object [], more)
                | more => (takeMembers rule fuel depth [] more).map fun p => (object p.1, p.2)
          else if c = 'n' then takeWord "null".toList null (c :: rest)
          else if c = 't' then takeWord "true".toList (bool true) (c :: rest)
          else if c = 'f' then takeWord "false".toList (bool false) (c :: rest)
          else (takeNumber rule (c :: rest)).map fun p => (number p.1, p.2)

/-- Takes items up to the closing bracket; `acc` holds those before them backwards. -/
def takeItems (rule : Rule) : Nat → Nat → List Json → List Char → Option (List Json × List Char)
  | 0, _, _, _ => none
  | fuel + 1, depth, acc, cs =>
      match takeValue rule fuel depth cs with
      | none => none
      | some (v, rest) =>
          match skipSpaces rest with
          | ',' :: more => takeItems rule fuel depth (v :: acc) more
          | ']' :: more => some ((v :: acc).reverse, more)
          | _ => none

/-- Takes members up to the closing brace; `acc` holds those before them backwards. -/
def takeMembers (rule : Rule) :
    Nat → Nat → List (String × Json) → List Char → Option (List (String × Json) × List Char)
  | 0, _, _, _ => none
  | fuel + 1, depth, acc, cs =>
      match skipSpaces cs with
      | '"' :: rest =>
          match takeString fuel [] rest with
          | none => none
          | some (key, rest) =>
              match skipSpaces rest with
              | ':' :: rest =>
                  match takeValue rule fuel depth rest with
                  | none => none
                  | some (v, rest) =>
                      match skipSpaces rest with
                      | ',' :: more => takeMembers rule fuel depth ((key, v) :: acc) more
                      | '}' :: more => some (((key, v) :: acc).reverse, more)
                      | _ => none
              | _ => none
      | _ => none
end

/-- How deeply containers may be nested in a text that is read. -/
def maxDepth : Nat := 127

/-- The value that a text denotes, with repeated keys kept. -/
def readVerbatim? (rule : Rule) (depth : Nat) (text : String) : Option Json :=
  let cs := text.toList
  match takeValue rule (cs.length + 1) depth cs with
  | some (v, rest) => if (skipSpaces rest).isEmpty then some v else none
  | none => none

def read? (rule : Rule) (text : String) : Option Json :=
  (readVerbatim? rule maxDepth text).map settle

end ReplySchema.Json
