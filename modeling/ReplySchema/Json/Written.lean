import ReplySchema.Json.Basic

/-! # Written JSON

What a serializer puts out is JSON text.  It is built in two steps: a *written
value*, which fixes what is written (the digits of each number, the members of each
object and their order), and its text, which only adds brackets, commas, colons and
quotes.  So the shape of an answer can be spoken about without parsing text, and
text that is not JSON cannot be produced.

Text is compact: no blanks.  Inside quotes the quote, the backslash and the control
characters below U+0020 are escaped, five of these by a letter, the others by four
hexadecimal digits; everything else stands as it is.
-/

set_option autoImplicit false

namespace ReplySchema

/-- A JSON value in the form in which it goes out. -/
inductive Written where
  | null
  | bool (value : Bool)
  | number (text : List Char)
  | string (text : String)
  | array (items : List Written)
  | object (members : List (String × Written))
deriving Inhabited

namespace Written

/-! ## §1  Text -/

def hexDigit (n : Nat) : Char := Nat.digitChar (n % 16)

def escapeChar (c : Char) : List Char :=
  if c = '"' then ['\\', '"']
  else if c = '\\' then ['\\', '\\']
  else if c = '\x08' then ['\\', 'b']
  else if c = '\x0c' then ['\\', 'f']
  else if c = '\n' then ['\\', 'n']
  else if c = '\r' then ['\\', 'r']
  else if c = '\t' then ['\\', 't']
  else if c.toNat < 0x20 then ['\\', 'u', '0', '0', hexDigit (c.toNat / 16), hexDigit c.toNat]
  else [c]

def quoteChars (s : String) : List Char := '"' :: s.toList.flatMap escapeChar ++ ['"']

mutual
def chars : Written → List Char
  | null => ['n', 'u', 'l', 'l']
  | bool true => ['t', 'r', 'u', 'e']
  | bool false => ['f', 'a', 'l', 's', 'e']
  | number text => text
  | string s => quoteChars s
  | array [] => ['[', ']']
  | array (x :: rest) => '[' :: chars x ++ itemsTail rest
  | object [] => ['{', '}']
  | object ((k, x) :: rest) => '{' :: quoteChars k ++ ':' :: chars x ++ membersTail rest

/-- The items behind the first one, each after a comma, and the bracket. -/
def itemsTail : List Written → List Char
  | [] => [']']
  | x :: rest => ',' :: chars x ++ itemsTail rest

/-- The members behind the first one, each after a comma, and the brace. -/
def membersTail : List (String × Written) → List Char
  | [] => ['}']
  | (k, x) :: rest => ',' :: quoteChars k ++ ':' :: chars x ++ membersTail rest
end

def text (w : Written) : String := String.ofList w.chars

/-! ## §2  Values as they are written -/

/-- Whether a double of this decimal magnitude is written without an exponent. -/
def isPositional (magnitude : Int) : Bool := -5 ≤ magnitude && magnitude < 16

/-- A double: the fewest digits that read back, with `.0` for a whole number without an
exponent.  Values that are not finite have no JSON form and become `null`. -/
def floatChars : Binary64 → List Char
  | .finite negative m e =>
      (if negative then ['-'] else []) ++
        if m = 0 then ['0', '.', '0']
        else
          let d := Decimal.shortest m e
          if isPositional d.magnitude then
            if 0 ≤ d.exponent then d.positional ++ ['.', '0'] else d.positional
          else d.exponential
  | _ => ['n', 'u', 'l', 'l']

/-- A number: an integer by its decimal digits, a double by `floatChars`. -/
def numberChars : Number → List Char
  | .int n => Decimal.intChars n
  | .float x => floatChars x

mutual
def ofJson : Json → Written
  | .null => null
  | .bool b => bool b
  | .number n => number (numberChars n)
  | .string s => string s
  | .array items => array (ofItems items)
  | .object members => object (ofMembers members)

def ofItems : List Json → List Written
  | [] => []
  | x :: rest => ofJson x :: ofItems rest

def ofMembers : List (String × Json) → List (String × Written)
  | [] => []
  | (k, x) :: rest => (k, ofJson x) :: ofMembers rest
end

theorem ofItems_eq_map (items : List Json) : ofItems items = items.map ofJson := by
  induction items with
  | nil => rfl
  | cons x rest ih => simp [ofItems, ih]

theorem ofMembers_eq_map (members : List (String × Json)) :
    ofMembers members = members.map fun p => (p.1, ofJson p.2) := by
  induction members with
  | nil => rfl
  | cons p rest ih => simp [ofMembers, ih]

end Written

def Json.text (v : Json) : String := (Written.ofJson v).text

end ReplySchema
