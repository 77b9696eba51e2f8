import ReplySchema.Json.Reader
import ReplySchema.Yaml.Cursor

/-! # Tags and directives

A tag tells the kind of a node.  It is written in full in angle brackets, or as a handle
and a suffix; a handle stands for the text that a directive gives it, and two handles have
a meaning without one.  A directive is a line of its own in front of a document.

Every function takes what it reads from a cursor and leaves the cursor behind it.
-/

set_option autoImplicit false

namespace ReplySchema.Yaml

-- Powers are those of the core library, whatever else is imported.
attribute [local instance (high)] instPowNat

def isNameChar (c : Char) : Bool := c.isAlphanum || c == '-' || c == '_'

/-- The characters of a tag besides those of names; some stand only where the tag is
delimited. -/
def isTagChar (delimited : Bool) (c : Char) : Bool :=
  isNameChar c || ";/?:@&=+$.%!~*'()".toList.contains c || (delimited && ",[]".toList.contains c)

inductive Directive where
  /-- The version of the format. -/
  | version (major minor : Nat)
  /-- The text that a handle stands for. -/
  | handle (name text : String)
deriving DecidableEq

namespace Cursor

/-! ## §1  Names -/

/-- Takes a name behind `&` or `*`. -/
def name (c : Cursor) : Option (String × Cursor) :=
  let chars := (c.rest.drop 1).takeWhile isNameChar
  let after := c.drop (chars.length + 1)
  let ended := endsWord after.rest ||
    (after.rest.take 1).any fun x =>
      ['?', ':', ',', ']', '}', '%', '@', Char.ofNat 0x60].contains x
  if chars.isEmpty || !ended then none else some (String.ofList chars, after)

/-! ## §2  Texts of tags -/

/-- Takes an octet that is written as a percent sign and two digits. -/
def taggedOctet (c : Cursor) : Option (Nat × Cursor) :=
  match c.rest with
  | '%' :: a :: b :: _ => do
      return ((← Json.hexValue? a) * 16 + (← Json.hexValue? b), c.drop 3)
  | _ => none

/-- How many octets a character has whose first octet is given. -/
def octetCount? (first : Nat) : Option Nat :=
  if first < 0x80 then some 1
  else if first / 0x20 = 6 then some 2
  else if first / 0x10 = 14 then some 3
  else if first / 0x08 = 30 then some 4
  else none

def furtherOctets : Nat → Nat → Cursor → Option (Nat × Cursor)
  | 0, n, c => some (n, c)
  | count + 1, n, c => do
      let (octet, c) ← c.taggedOctet
      if octet / 0x40 = 2 then furtherOctets count (n * 0x40 + octet % 0x40) c else none

def taggedChar (c : Cursor) : Option (Char × Cursor) := do
  let (first, c) ← c.taggedOctet
  let count ← octetCount? first
  let start := if count = 1 then first else first % 2 ^ (7 - count)
  let (n, c) ← furtherOctets (count - 1) start c
  return (Char.ofNat n, c)

def tagChars (delimited : Bool) : Nat → Cursor → Option (List Char × Cursor)
  | 0, c => some ([], c)
  | fuel + 1, c =>
      match c.rest with
      | [] => some ([], c)
      | x :: _ =>
          if x = '%' then do
            let (y, c) ← c.taggedChar
            let (ys, c) ← tagChars delimited fuel c
            return (y :: ys, c)
          else if isTagChar delimited x then do
            let (ys, c) ← tagChars delimited fuel c.next
            return (x :: ys, c)
          else some ([], c)

def tagText (delimited : Bool) (c : Cursor) : Option (List Char × Cursor) :=
  tagChars delimited (c.rest.length + 1) c

/-- Takes an exclamation mark, a name and perhaps another exclamation mark. -/
def tagHandle (c : Cursor) : Option (List Char × Cursor) :=
  if c.at? '!' then
    let after := c.next.passWhile isNameChar
    let after := if after.at? '!' then after.next else after
    some (c.rest.take (c.rest.length - after.rest.length), after)
  else none

/-- Takes a tag: its handle, which is empty if the tag is written in full, and its suffix. -/
def tag (c : Cursor) : Option (String × String × Cursor) := do
  if (c.rest.drop 1).head? = some '<' then
    let (text, after) ← (c.drop 2).tagText true
    if text.isEmpty || !after.at? '>' then none
    return ("", String.ofList text, after.next)
  else
    let (handle, after) ← c.tagHandle
    if 1 < handle.length ∧ handle.getLast? = some '!' then
      let (suffix, after) ← after.tagText false
      if suffix.isEmpty then none
      return (String.ofList handle, String.ofList suffix, after)
    else
      let (more, after) ← after.tagText false
      let suffix := handle.drop 1 ++ more
      if suffix.isEmpty then return ("", "!", after)
      else return ("!", String.ofList suffix, after)

/-! ## §3  Directives -/

/-- Takes a number of a version, of at most nine digits. -/
def versionNumber (c : Cursor) : Option (Nat × Cursor) :=
  let digits := c.rest.takeWhile Char.isDigit
  if digits.isEmpty ∨ 9 < digits.length then none
  else some (Decimal.ofDigits digits, c.drop digits.length)

/-- Takes a directive; the cursor stands at its percent sign and is left at the start of the
next line. -/
def directive (c : Cursor) : Option (Directive × Cursor) := do
  let name := (c.rest.drop 1).takeWhile isNameChar
  let c := c.drop (name.length + 1)
  if name.isEmpty || !endsWord c.rest then none
  let c := c.passWhile isBlank
  let (said, c) ← match String.ofList name with
    | "YAML" => do
        let (major, c) ← c.versionNumber
        if !c.at? '.' then none
        let (minor, c) ← c.next.versionNumber
        some (Directive.version major minor, c)
    | "TAG" => do
        let (handle, c) ← c.tagHandle
        if handle.getLast? ≠ some '!' ∨ !(c.rest.take 1).any isBlank then none
        let (text, c) ← (c.passWhile isBlank).tagText true
        if text.isEmpty || !endsWord c.rest then none
        some (.handle (String.ofList handle) (String.ofList text), c)
    | _ => none
  let c := c.passWhile isBlank
  let c := if c.at? '#' then c.passWhile fun x => !isBreak x else c
  if !(c.rest.take 1).all isBreak then none
  return (said, c.nextLine)

end Cursor

end ReplySchema.Yaml
