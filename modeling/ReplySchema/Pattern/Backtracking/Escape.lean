import ReplySchema.Pattern.Backtracking.Cursor

/-! # Escapes and classes of patterns that look around

Escapes and brackets become plain patterns as far as these can say them; between
brackets escaped characters are written anew, so that a plain pattern reads them as
characters.
-/

set_option autoImplicit false

namespace ReplySchema.Pattern.Backtracking.Reading

/-! ## §1  Characters -/

def literal (c : Char) : Reading Tree := return .literal c (← get).flags.caseless

def plain (text : List Char) : Reading Tree :=
  return .plain (String.ofList text) 1 (← get).flags.caseless

def charOfHex? (ds : List Char) : Option Char := do
  let n ← ds.foldlM (fun n d => (Json.hexValue? d).map fun x => n * 16 + x) 0
  Pattern.Reading.charOf? n

/-- Reads a code point of so many hexadecimal digits, or of up to eight in braces. -/
def codePoint (digits : Nat) : Reading Tree := do
  let cs ← rest
  let fixed := cs.take digits
  let isHex (c : Char) : Bool := (Json.hexValue? c).isSome
  if fixed.length = digits && fixed.all isHex then
    match charOfHex? fixed with
    | some c =>
        skip digits
        literal c
    | none => fail
  else
    match cs with
    | '\x7b' :: inside =>
        let ds := inside.takeWhile isHex
        match charOfHex? ds, inside.drop ds.length with
        | some c, '\x7d' :: more =>
            if ds.isEmpty || 8 < ds.length then fail
            else
              goTo more
              literal c
        | _, _ => fail
    | _ => fail

/-- Takes the name of a property, its braces included. -/
def propertyText? : List Char → Option (List Char × List Char)
  | [] => none
  | '\x7b' :: inside =>
      let name := inside.takeWhile (· != '\x7d')
      match inside.drop name.length with
      | c :: more => some ('\x7b' :: name ++ [c], more)
      | [] => none
  | c :: more => some ([c], more)

/-- The character of an escape that stands for one; letters without a meaning have none.  Letters
that have a meaning outside of brackets only stand for themselves inside. -/
def charOf? (c : Char) : Option Char :=
  match c with
  | 'a' => some '\x07'
  | 'b' => some '\x08'
  | 'f' => some '\x0c'
  | 'n' => some '\n'
  | 'r' => some '\r'
  | 't' => some '\t'
  | 'v' => some '\x0b'
  | 'e' => some '\x1b'
  | _ => if c.isAlpha && !"kAzBKG".toList.contains c then none else some c

def namedEdge : Reading Tree := do
  if ← skipIf "start\x7d" then return .edge (.wordStart false)
  else if ← skipIf "end\x7d" then return .edge (.wordEnd false)
  else if ← skipIf "start-half\x7d" then return .edge (.wordStartHalf false)
  else if ← skipIf "end-half\x7d" then return .edge (.wordEndHalf false)
  else fail

/-! ## §2  Escapes -/

/-- Reads the escapes that mean the same inside and outside of brackets; the cursor is behind their
letter. -/
def commonEscape (c : Char) : Reading Tree := do
  if ['d', 's', 'w'].contains c.toLower then plain ['\\', c]
  else if c = 'h' then plain "[0-9A-Fa-f]".toList
  else if c = 'H' then plain "[^0-9A-Fa-f]".toList
  else if c = 'x' then codePoint 2
  else if c = 'u' then codePoint 4
  else if c = 'U' then codePoint 8
  else if c = 'p' ∨ c = 'P' then
    match propertyText? (← rest) with
    | some (name, more) =>
        goTo more
        plain ('\\' :: c :: name)
    | none => fail
  else
    match charOf? c with
    | some c => return .literal c false
    | none => fail

/-- Nothing but line feeds up to the end of the text. -/
def endsText : Tree := .look .ahead (.plain "\\n*$" 0 false)

/-- Reads an escape outside of brackets; the cursor is behind its backslash. -/
def escape : Reading Tree := do
  match ← rest with
  | [] => fail
  | c :: more =>
      if c.isDigit then numberedReference
      else
        goTo more
        match c with
        | 'k' =>
            if ← skipIf "<" then namedReference '>' true
            else if ← skipIf "'" then namedReference '\'' true
            else fail
        | 'A' => return .edge .textStart
        | 'z' => return .edge .textEnd
        | 'Z' => return endsText
        | 'b' => if ← skipIf "\x7b" then namedEdge else return .edge (.word false)
        | 'B' => if more.head? = some '\x7b' then fail else return .edge (.notWord false)
        | '<' => return .edge (.wordStart false)
        | '>' => return .edge (.wordEnd false)
        | 'K' => return .keepOut
        | 'G' => return .searchStart
        | 'O' => return .any true false
        | 'N' => return .any false false
        | 'R' => return .lineBreak
        | _ => commonEscape c

/-! ## §3  Brackets -/

def bracketMeta : List Char := Tree.metaChars ++ ['&', '-', '~']

/-- Reads an escape between brackets; the answer is how it is written for a plain pattern. -/
def classEscape : Reading (List Char) := do
  match ← rest with
  | [] => fail
  | c :: more =>
      if c.isDigit then fail
      else
        goTo more
        match ← commonEscape c with
        | .literal c _ => return if bracketMeta.contains c then ['\\', c] else [c]
        | .plain text _ _ => return text.toList
        | _ => fail

/-- Reads a class up to the bracket that closes it, with so many brackets open. -/
def classRest : Nat → Nat → Reading (List Char)
  | 0, _ => fail
  | n + 1, open_ => do
      skipSpace
      match ← rest with
      | [] => fail
      | c :: more =>
          goTo more
          match c with
          | '\\' => return (← classEscape) ++ (← classRest n open_)
          | '[' => return '[' :: (← classRest n (open_ + 1))
          | ']' => if open_ ≤ 1 then return [']'] else return ']' :: (← classRest n (open_ - 1))
          | _ => return c :: (← classRest n open_)

/-- Reads a class; the cursor is behind its opening bracket.  A closing bracket that stands first
is a character. -/
def bracket : Reading Tree := do
  let hat ← skipIf "^"
  let close ← skipIf "]"
  let inside ← classRest ((← rest).length + 1) 1
  plain ('[' :: (if hat then ['^'] else []) ++ (if close then ['\\', ']'] else []) ++ inside)

end ReplySchema.Pattern.Backtracking.Reading
