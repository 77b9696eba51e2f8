import ReplySchema.Pattern.Tree
import ReplySchema.Text.Blank

/-! # Going over the text of a pattern

A pattern is read from left to right.  What is known on the way is a `Cursor`: the rest
of the text, how many characters came before it, whether blanks and comments are passed
over, which groups there have been, and which places hold escapes that schemas read in
a way of their own.
-/

set_option autoImplicit false

namespace ReplySchema.Pattern

/-- Why a text is no pattern. -/
inductive Fault where
  /-- An escape of a letter that has no meaning; the offset is that of the backslash. -/
  | unknownEscape (letter : Char) (offset : Nat)
  | lookAround
  | backReference
  | malformed
deriving DecidableEq

/-- A place in the text of a pattern, and what came before it. -/
structure Cursor where
  rest : List Char
  offset : Nat := 0
  /-- Whether blanks and comments are passed over. -/
  verbose : Bool := false
  /-- The number of groups that remember. -/
  captures : Nat := 0
  names : List String := []
  /-- The offsets of escapes of letter classes, with the letter; the last one first. -/
  classes : List (Nat × Char) := []
  /-- Whether the bell was written as an escape outside of brackets. -/
  bell : Bool := false

abbrev Reading := StateT Cursor (Except Fault)

namespace Cursor

def char? (c : Cursor) : Option Char := c.rest.head?

def next (c : Cursor) : Cursor := { c with rest := c.rest.tail, offset := c.offset + 1 }

def skip (n : Nat) (c : Cursor) : Cursor :=
  { c with rest := c.rest.drop n, offset := c.offset + (c.rest.take n).length }

/-- The number of characters of a comment, its line feed included. -/
def commentLength (cs : List Char) : Nat :=
  let inside := cs.takeWhile (· != '\n')
  if inside.length < cs.length then inside.length + 1 else inside.length

/-- The number of blanks and characters of comments at the front of a text. -/
def blankLength : Nat → List Char → Nat
  | 0, _ => 0
  | n + 1, cs =>
      match cs with
      | [] => 0
      | c :: rest =>
          if Text.isBlank c then blankLength n rest + 1
          else if c = '#' then
            let inside := commentLength cs
            blankLength n (cs.drop inside) + inside
          else 0

def pastBlanks (c : Cursor) : Cursor :=
  if c.verbose then c.skip (blankLength c.rest.length c.rest) else c

/-- The character that follows the one under the cursor, blanks and the mark of a comment passed
over; where nothing else follows, it is the next one. -/
def peek? (c : Cursor) : Option Char :=
  let behind := c.rest.tail
  if c.verbose then
    let cs := behind.dropWhile Text.isBlank
    let cs := match cs with
      | '#' :: more => more.dropWhile Text.isBlank
      | _ => cs
    cs.head? <|> behind.head?
  else behind.head?

end Cursor

namespace Reading

def fail {α : Type} (f : Fault) : Reading α := throw f

def malformed {α : Type} : Reading α := throw .malformed

def char? : Reading (Option Char) := return (← get).char?

/-- The character under the cursor; there must be one. -/
def char : Reading Char := do
  match ← char? with
  | some c => pure c
  | none => malformed

def bump : Reading Unit := modify Cursor.next

def bumpBlanks : Reading Unit := modify Cursor.pastBlanks

/-- Goes one character further and past blanks and comments. -/
def bumpPast : Reading Unit := do
  bump
  bumpBlanks

def bumpIf (text : String) : Reading Bool := do
  let c ← get
  if text.toList.isPrefixOf c.rest then
    set (c.skip text.length)
    pure true
  else pure false

def sees (text : String) : Reading Bool := return text.toList.isPrefixOf (← get).rest

/-- Runs a reading and gives back its answer; without one the cursor stays where it was. -/
def attempt {α : Type} (r : Reading (Option α)) : Reading (Option α) := do
  let before ← get
  match ← r with
  | some a => pure (some a)
  | none =>
      set before
      pure none

end Reading

end ReplySchema.Pattern
