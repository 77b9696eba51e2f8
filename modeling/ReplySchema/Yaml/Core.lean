import ReplySchema.Json.Reader

/-! # The meaning of plain scalars

A plain scalar is nothing, a truth value, a number or, if it is none of these, a text.
The spellings are those of the core schema: `null` and `~`, `true` and `false`, each in
three cases; integers in decimal, and with the marks `0x`, `0o` and `0b` in another
base; decimal numbers with a point or an exponent; `.inf` and `.nan`.  Digits that begin
with a zero are a text, as are dates and the words `yes` and `no`.

An integer of more than 64 bits has no place in a manifest and is refused; one of more
than 128 bits is read as a double.

A tag can demand one of these meanings of any scalar, also of a quoted one.  A tag with
another name makes it a text, and a tag of one's own is refused.
-/

set_option autoImplicit false

namespace ReplySchema.Yaml

-- Powers are those of the core library, whatever else is imported.
attribute [local instance (high)] instPowNat

/-- The truth value that a plain scalar means. -/
def truth? (s : String) : Option Bool :=
  if ["true", "True", "TRUE"].contains s then some true
  else if ["false", "False", "FALSE"].contains s then some false
  else none

/-- A number written in a base below 37, with at least one digit. -/
def natOfBase? (base : Nat) (cs : List Char) : Option Nat :=
  let digit? (c : Char) : Option Nat := (Json.hexValue? c).filter (· < base)
  if cs.isEmpty then none
  else (cs.mapM digit?).map fun ds => ds.foldl (fun n d => n * base + d) 0

/-- The number behind a mark of its base, or a decimal number. -/
def magnitude? : List Char → Option Nat
  | '0' :: 'x' :: rest => natOfBase? 16 rest
  | '0' :: 'o' :: rest => natOfBase? 8 rest
  | '0' :: 'b' :: rest => natOfBase? 2 rest
  | cs => natOfBase? 10 cs

/-- Whether only digits stand here, more than one, the first of them a zero. -/
def isPaddedDigits (cs : List Char) : Bool :=
  cs.head? == some '0' && 1 < cs.length && cs.all Char.isDigit

def splitSign : List Char → Bool × List Char
  | '-' :: rest => (true, rest)
  | '+' :: rest => (false, rest)
  | cs => (false, cs)

def integer? (cs : List Char) : Option Int :=
  let (negative, body) := splitSign cs
  if isPaddedDigits body then none
  else (magnitude? body).map fun n => if negative then -(n : Int) else n

/-- The infinity or the absence of a number that a plain scalar means. -/
def unbounded? (s : String) : Option Binary64 :=
  if [".inf", ".Inf", ".INF", "+.inf", "+.Inf", "+.INF"].contains s then some (.infinite false)
  else if ["-.inf", "-.Inf", "-.INF"].contains s then some (.infinite true)
  else if [".nan", ".NaN", ".NAN"].contains s then some .nan
  else none

def decimal? (cs : List Char) : Option Binary64 :=
  let (_, body) := splitSign cs
  if (splitSign body).2.length != body.length then none
  else (Decimal.read? cs).filter Binary64.isFinite

/-- The finite double that a scalar means, if it is not one of padded digits. -/
def unpadded? (cs : List Char) : Option Binary64 :=
  if isPaddedDigits (splitSign cs).2 then none else decimal? cs

/-- Whether an integer fits 64 bits, with or without a sign. -/
def fits64 (n : Int) : Bool := -(2 ^ (63 : Nat)) ≤ n && n < 2 ^ (64 : Nat)

/-- Whether an integer fits 128 bits, with or without a sign. -/
def fits128 (n : Int) : Bool := -(2 ^ (127 : Nat)) ≤ n && n < 2 ^ (128 : Nat)

/-- Whether a plain scalar is a word for nothing. -/
def namesNull (s : String) : Bool := ["~", "null", "Null", "NULL"].contains s

/-- Whether a plain scalar means nothing, or is not written at all. -/
def meansNull (s : String) : Bool := s.isEmpty || namesNull s

/-- The integer that a scalar means, if it is one of at most 128 bits; one of more than 64
bits is refused. -/
def integerValue? (s : String) : Option (Option Json) :=
  ((integer? s.toList).filter fits128).map fun n => if fits64 n then some (.int n) else none

/-- The value of a plain scalar without a tag; nothing for an integer that is refused. -/
def plainValue? (s : String) : Option Json :=
  if meansNull s then some .null
  else
    match truth? s with
    | some b => some (.bool b)
    | none =>
        match integerValue? s with
        | some n => n
        | none =>
            match unbounded? s <|> unpadded? s.toList with
            | some x => some (.number (.float x))
            | none => some (.string s)

def commonTag (kind : String) : String := "tag:yaml.org,2002:" ++ kind

def isLocalTag (tag : String) : Bool := tag.startsWith "!"

/-- The value of a scalar with a tag; nothing if it is not of the kind that the tag tells. -/
def taggedValue? (tag s : String) : Option Json :=
  if isLocalTag tag then none
  else if tag == commonTag "bool" then (truth? s).map .bool
  else if tag == commonTag "int" then (integerValue? s).join
  else if tag == commonTag "float" then
    (unbounded? s <|> decimal? s.toList).map fun x => .number (.float x)
  else if tag == commonTag "null" then if namesNull s then some .null else none
  else some (.string s)

def scalarValue? (tag : Option String) (plain : Bool) (s : String) : Option Json :=
  match tag with
  | some tag => taggedValue? tag s
  | none => if plain then plainValue? s else some (.string s)

end ReplySchema.Yaml
