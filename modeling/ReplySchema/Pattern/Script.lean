import ReplySchema.Pattern.Backtracking.Machine

/-! # Patterns of schemas

The patterns of schemas follow ECMA-262, where the letter classes know ASCII only and
`\c` with a letter is a control character.  Such a pattern is spelt out first: control
characters are put in, and letter classes are written out as brackets.  A pattern that
looks around or back stays as it is behind the point where that is found.

What comes out is read as a pattern that may look around.  If nothing in it is hard, it
is a plain pattern after all; else it becomes a program.
-/

set_option autoImplicit false

namespace ReplySchema.Pattern.Script

open Backtracking (Node Program Making)

/-! ## §1  Spelling out -/

def blanks : List Char :=
  [' ', '\t', '\n', '\r', '\x0b', '\x0c', Char.ofNat 0xA0, Char.ofNat 0xFEFF, Char.ofNat 0x2003,
    Char.ofNat 0x2029]

def classInside (letter : Char) : List Char :=
  match letter.toLower with
  | 'd' => "0-9".toList
  | 'w' => "A-Za-z0-9_".toList
  | _ => blanks

def classText (letter : Char) : List Char :=
  '[' :: (if letter.isUpper then ['^'] else []) ++ classInside letter ++ [']']

/-- Writes out the letter classes at some offsets; the text starts at the offset `n`. -/
def writeClasses (classes : List (Nat × Char)) : Nat → List Char → List Char
  | n, c :: next :: rest =>
      match classes.lookup n with
      | some letter => classText letter ++ writeClasses classes (n + 2) rest
      | none => c :: writeClasses classes (n + 1) (next :: rest)
  | _, cs => cs

/-- Spells out a text in which at most so many control characters are to be put in. -/
def spellOutWithin : Nat → List Char → Option (List Char)
  | 0, _ => none
  | n + 1, cs =>
      match Tree.readWith (String.ofList cs) with
      | .error (.unknownEscape 'c' offset) =>
          match cs.drop (offset + 2) with
          | letter :: rest =>
              if letter.isAlpha then
                spellOutWithin n (cs.take offset ++ Char.ofNat (letter.toNat % 32) :: rest)
              else none
          | [] => none
      | .error .lookAround | .error .backReference => some cs
      | .error _ => none
      | .ok (_, cursor) =>
          if cursor.bell then none
          else
            let text := writeClasses cursor.classes 0 cs
            if (Tree.read (String.ofList text)).toOption.isSome then some text else none

def spellOut? (source : String) : Option String :=
  (spellOutWithin (source.length + 1) source.toList).map String.ofList

end Script

/-! ## §2  Programs -/

/-- How a pattern of a schema is searched for. -/
inductive Script.Engine where
  | plain (pattern : Pattern)
  | program (program : Backtracking.Program)

structure Script where
  /-- The pattern spelt out. -/
  text : String
  engine : Script.Engine

namespace Script

open Backtracking (Node Program Making)

/-- Moves a look ahead at the end of a pattern out of it: what it sees is matched behind a group of
all the rest.  The answer tells whether that was done. -/
def freeLastLook : Backtracking.Tree → Backtracking.Tree × Bool
  | .concat items =>
      match items.getLast? with
      | some (.look .ahead inner) => (.concat [.group (.concat items.dropLast), inner], true)
      | _ => (.concat items, false)
  | tree => (tree, false)

def startsWithText (node : Node) : Bool :=
  match node.tree with
  | .edge .textStart => true
  | .concat (.edge .textStart :: _) => true
  | _ => false

/-- Makes the program of a node; the whole match is a group of its own if `whole` says so. -/
def makeProgram (node : Node) (nesting : Nat) (whole : Bool) : Making Unit := do
  if !startsWithText node then Making.search
  if whole then Making.emit (.save 0)
  Making.visit nesting false node
  if whole then Making.emit (.save 1)
  Making.emit .done

/-- How a pattern that is spelt out is searched for. -/
def engine? (text : String) : Option Engine := do
  let (tree, referenced) ← Backtracking.Tree.read? text
  let (tree, freed) := freeLastLook tree
  let first := if freed then 0 else 1
  let node := Node.ofTree referenced first tree
  if referenced.any fun g => g = 0 || node.endGroup ≤ g then none
  else if node.hard then
    let start : Program := { code := #[], slots := 2 * node.endGroup }
    let (_, program) ← (makeProgram node (text.length + 1) (!freed)).run start
    return .program program
  else return .plain (← Pattern.read? (String.ofList (tree.text 0)))

def read? (source : String) : Option Script := do
  let text ← spellOut? source
  return { text, engine := ← engine? text }

/-- Whether the pattern matches somewhere in a text; there may be no answer. -/
def isIn (p : Script) (text : String) : Option Bool :=
  match p.engine with
  | .plain pattern => some (pattern.isIn text)
  | .program program =>
      match program.search text.toList.toArray with
      | .found => some true
      | .notFound => some false
      | .overrun => none

end Script

end ReplySchema.Pattern
