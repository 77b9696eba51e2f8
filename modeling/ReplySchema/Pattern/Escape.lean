import ReplySchema.Pattern.Cursor
import ReplySchema.Json.Reader

/-! # Escapes

What a backslash and the characters behind it stand for: a character, a class, or a
condition on a place.  Code points are written with two, four or eight hexadecimal
digits, or with any number of them in braces; properties with one letter, or with a
text in braces.
-/

set_option autoImplicit false

namespace ReplySchema.Pattern

/-- The smallest parts of a pattern. -/
inductive Primitive where
  | literal (c : Char) (octet : Bool)
  | dot
  | assertion (kind : Assertion)
  | property (name : PropertyName) (negated : Bool)
  | letter (class_ : LetterClass) (negated : Bool)

namespace Primitive

def tree : Primitive → Tree
  | literal c octet => .literal c octet
  | dot => .dot
  | assertion kind => .assertion kind
  | property name negated => .property name negated
  | letter class_ negated => .letter class_ negated

/-- The part as an item between brackets, where a condition is none. -/
def item? : Primitive → Option ClassTree
  | literal c octet => some (.literal c octet)
  | property name negated => some (.property name negated)
  | letter class_ negated => some (.letter class_ negated)
  | _ => none

end Primitive

namespace Reading

/-! ## §1  Code points -/

def charOf? (n : Nat) : Option Char :=
  if n < 0xD800 ∨ (0xDFFF < n ∧ n ≤ 0x10FFFF) then some (Char.ofNat n) else none

/-- The character whose code point is written with hexadecimal digits. -/
def ofHex (ds : List Char) : Reading Char :=
  if ds.isEmpty then malformed
  else
    match ds.foldlM (fun n d => (Json.hexValue? d).map fun x => n * 16 + x) 0 with
    | some n =>
        match charOf? n with
        | some c => pure c
        | none => malformed
    | none => malformed

/-- Takes characters up to a closing brace, with blanks between them passed over; the cursor is on
the opening brace, and at the end on the closing one. -/
def untilBrace : Nat → Reading (List Char)
  | 0 => malformed
  | n + 1 => do
      bumpPast
      let c ← char
      if c = '\x7d' then pure [] else return c :: (← untilBrace n)

/-- Takes so many characters, with blanks between them passed over; the cursor is on the first
one, and at the end behind the last one. -/
def fixedCount : Nat → Reading (List Char)
  | 0 => pure []
  | n + 1 => do
      let c ← char
      bumpPast
      return c :: (← fixedCount n)

/-- The number of digits behind the letter of a code point. -/
def digitCount (letter : Char) : Nat :=
  if letter = 'x' then 2 else if letter = 'u' then 4 else 8

/-- Reads a code point; the cursor is on its letter. -/
def codePoint (letter : Char) : Reading Primitive := do
  bumpPast
  if ← sees "\x7b" then
    let ds ← untilBrace (← get).rest.length
    bumpPast
    return .literal (← ofHex ds) false
  else
    let ds ← fixedCount (digitCount letter)
    return .literal (← ofHex ds) (letter == 'x')

/-! ## §2  Properties -/

/-- The text before and behind the first occurrence of another text. -/
def cutAround (mark : List Char) : List Char → Option (List Char × List Char)
  | [] => none
  | c :: rest =>
      if mark.isPrefixOf (c :: rest) then some ([], (c :: rest).drop mark.length)
      else (cutAround mark rest).map fun p => (c :: p.1, p.2)

/-- The property that a text in braces names; `!=` negates. -/
def propertyOf (text : List Char) (negated : Bool) : Primitive :=
  let named (p : List Char × List Char) : PropertyName :=
    .value (String.ofList p.1) (String.ofList p.2)
  match cutAround ['!', '='] text, cutAround [':'] text, cutAround ['='] text with
  | some p, _, _ => .property (named p) (!negated)
  | none, some p, _ => .property (named p) negated
  | none, none, some p => .property (named p) negated
  | none, none, none => .property (.single (String.ofList text)) negated

/-- Reads a property; the cursor is on its letter. -/
def property (negated : Bool) : Reading Primitive := do
  bumpPast
  let c ← char
  if c = '\x7b' then
    let text ← untilBrace (← get).rest.length
    bump
    return propertyOf text negated
  else if c = '\\' then malformed
  else
    bumpPast
    return .property (.single (String.ofList [c])) negated

/-! ## §3  Edges of words -/

def isEdgeChar (c : Char) : Bool := c.isAlpha || c == '-'

def edgeName : Nat → Reading (List Char)
  | 0 => pure []
  | n + 1 => do
      match ← char? with
      | some c =>
          if isEdgeChar c then
            bumpPast
            return c :: (← edgeName n)
          else pure []
      | none => pure []

def edgeOf? (name : String) : Option Assertion :=
  match name with
  | "start" => some .wordStart
  | "end" => some .wordEnd
  | "start-half" => some .wordStartHalf
  | "end-half" => some .wordEndHalf
  | _ => none

/-- Reads the name of an edge in braces, if there is one; the cursor is on the brace.  What does
not start like a name is the count of a repetition. -/
def edge? : Reading (Option Assertion) := do
  bumpPast
  if isEdgeChar (← char) then
    let name ← edgeName (← get).rest.length
    if (← char) = '\x7d' then
      bump
      match edgeOf? (String.ofList name) with
      | some kind => pure (some kind)
      | none => malformed
    else malformed
  else pure none

def wordEdge : Reading Primitive := do
  if ← sees "\x7b" then return .assertion ((← attempt edge?).getD .wordEdge)
  else return .assertion .wordEdge

/-! ## §4  Letters -/

/-- The class of a letter; a capital negates it. -/
def letterClass? (c : Char) : Option LetterClass :=
  match c.toLower with
  | 'd' => some .digit
  | 's' => some .space
  | 'w' => some .word
  | _ => none

def controlOf? (c : Char) : Option Char :=
  match c with
  | 'a' => some '\x07'
  | 'f' => some '\x0c'
  | 't' => some '\t'
  | 'n' => some '\n'
  | 'r' => some '\r'
  | 'v' => some '\x0b'
  | _ => none

/-- Whether a character stands for itself behind a backslash. -/
def isEscapable (c : Char) : Bool := c.toNat < 0x80 && !c.isAlphanum && c != '<' && c != '>'

/-- Reads an escape of one character behind the cursor; `start` is the offset of its backslash. -/
def shortEscape (c : Char) (start : Nat) : Reading Primitive := do
  bump
  if isEscapable c then return .literal c false
  else
    match controlOf? c with
    | some control => return .literal control false
    | none =>
        match c with
        | 'A' => return .assertion .textStart
        | 'z' => return .assertion .textEnd
        | 'b' => wordEdge
        | 'B' => return .assertion .notWordEdge
        | '<' => return .assertion .wordStart
        | '>' => return .assertion .wordEnd
        | _ => fail (.unknownEscape c start)

/-- Reads an escape; the cursor is on its backslash. -/
def escape : Reading Primitive := do
  let start := (← get).offset
  bump
  let c ← char
  match letterClass? c with
  | some class_ =>
      bump
      modify fun k => { k with classes := (start, c) :: k.classes }
      return .letter class_ c.isUpper
  | none =>
      if c.isDigit then fail .backReference
      else if c = 'x' ∨ c = 'u' ∨ c = 'U' then codePoint c
      else if c = 'p' ∨ c = 'P' then property (c == 'P')
      else shortEscape c start

end Reading

end ReplySchema.Pattern
