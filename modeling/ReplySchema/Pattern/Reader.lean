import ReplySchema.Pattern.Bracket
import ReplySchema.Unicode.Binary

/-! # Reading patterns

A pattern is a row of branches with bars between them; a branch is a row of characters,
classes, escapes, groups and repetitions.  Groups that look around and references back
to groups have no place in it, and end the reading with a fault of their own.

Functions take a fuel; as each step takes a character, the length of the text is
enough.
-/

set_option autoImplicit false

namespace ReplySchema.Pattern

-- Powers are those of the core library, whatever else is imported.
attribute [local instance (high)] instPowNat

namespace Reading

/-! ## §1  Groups -/

def flagOf? (c : Char) : Option Flag :=
  match c with
  | 'i' => some .caseless
  | 'm' => some .multiline
  | 's' => some .dotAll
  | 'U' => some .swapGreed
  | 'u' => some .unicode
  | 'R' => some .carriageReturn
  | 'x' => some .verbose
  | _ => none

/-- Reads flags up to a colon or a closing parenthesis.  `on` tells whether they are set or, behind
a hyphen, cleared; `back` holds those before, the last one first. -/
def flagChanges : Nat → Bool → FlagChanges → Reading FlagChanges
  | 0, _, _ => malformed
  | n + 1, on, back => do
      let c ← char
      if c = ':' ∨ c = ')' then return back.reverse
      else if c = '-' then
        bump
        let following ← char
        if !on || following = ':' || following = ')' then malformed
        else flagChanges n false back
      else
        match flagOf? c with
        | none => malformed
        | some flag =>
            if back.any fun change => change.1 = flag then malformed
            else
              bump
              flagChanges n on ((flag, on) :: back)

/-- Whether a character may stand in the name of a group, or at its start. -/
def isNameChar (first : Bool) (c : Char) : Bool :=
  let n := c.toNat
  c == '_' ||
    if n < 0x80 then if first then c.isAlpha else c.isAlphanum || c == '.' || c == '[' || c == ']'
    else
      Unicode.alphabetic.contains n ||
        (!first && (Unicode.categories ["Nd", "Nl", "No"]).contains n)

/-- Takes the name of a group up to the closing angle. -/
def groupName : Nat → Bool → Reading (List Char)
  | 0, _ => malformed
  | n + 1, first => do
      let c ← char
      if c = '>' then pure []
      else if isNameChar first c then
        bump
        return c :: (← groupName n false)
      else malformed

/-- How a group starts. -/
inductive Opening where
  | flags (changes : FlagChanges)
  | capture (index : Nat)
  | plain (changes : FlagChanges)

def nextCapture : Reading Nat := do
  let index := (← get).captures + 1
  modify fun c => { c with captures := index }
  pure index

/-- Reads the name of a group up to behind the angle; no two groups have one name. -/
def namedCapture : Reading Opening := do
  let index ← nextCapture
  let name := String.ofList (← groupName ((← get).rest.length + 1) true)
  bump
  if name.isEmpty || (← get).names.contains name then malformed
  else
    modify fun c => { c with names := name :: c.names }
    return .capture index

def flagOpening : Reading Opening := do
  let start := (← get).offset
  let changes ← flagChanges ((← get).rest.length + 1) true []
  let empty := (← get).offset == start
  let closes := (← char) == ')'
  bump
  if closes then if empty then malformed else return .flags changes
  else return .plain changes

/-- Reads the start of a group; the cursor is on its parenthesis. -/
def opening : Reading Opening := do
  bumpPast
  if (← sees "?=") || (← sees "?!") || (← sees "?<=") || (← sees "?<!") then fail .lookAround
  else if ← bumpIf "?P<" then namedCapture
  else if ← bumpIf "?<" then namedCapture
  else if ← bumpIf "?" then flagOpening
  else return .capture (← nextCapture)

def changeOf? (flag : Flag) (changes : FlagChanges) : Option Bool := changes.lookup flag

/-! ## §2  Repetitions -/

def greatestCount : Nat := 2 ^ (32 : Nat) - 1

def countDigits : Nat → Reading (List Char)
  | 0 => pure []
  | n + 1 => do
      match ← char? with
      | some c =>
          if c.isDigit then
            bumpPast
            return c :: (← countDigits n)
          else pure []
      | none => pure []

/-- Goes past blanks, whether they are passed over elsewhere or not. -/
def bumpSpaces : Reading Unit := modify fun c => c.skip (c.rest.takeWhile Text.isBlank).length

def count? : Reading (Option Nat) := do
  bumpSpaces
  let ds ← countDigits (← get).rest.length
  bumpSpaces
  bumpBlanks
  bumpSpaces
  if ds.isEmpty then return none
  else if Decimal.ofDigits ds ≤ greatestCount then return some (Decimal.ofDigits ds)
  else malformed

/-- Reads the counts of a repetition up to the closing brace; the cursor is on the opening one. -/
def counts : Reading (Nat × Option Nat) := do
  bumpPast
  let least ← count?
  match ← char with
  | ',' =>
      bumpPast
      match least, ← char with
      | none, _ => malformed
      | some n, '\x7d' => return (n, none)
      | some n, _ =>
          match ← count? with
          | some m => if n ≤ m then return (n, some m) else malformed
          | none => malformed
  | _ =>
      match least with
      | some n => return (n, some n)
      | none => malformed

/-- Goes past a question mark that makes a repetition reluctant; the answer tells whether the
repetition is greedy. -/
def greed : Reading Bool := return !(← bumpIf "?")

def isRepeatable : Tree → Bool
  | .empty => false
  | .flags _ => false
  | _ => true

/-- Repeats the last item as the character under the cursor says. -/
def repeatLast (c : Char) : List Tree → Reading (List Tree)
  | [] => malformed
  | last :: back =>
      if !isRepeatable last then malformed
      else
        match c with
        | '\x7b' => do
            let (least, most) ← counts
            if (← char) = '\x7d' then
              bumpPast
              return .repetition least most (← greed) last :: back
            else malformed
        | _ => do
            bump
            let (least, most) : Nat × Option Nat :=
              if c = '?' then (0, some 1) else if c = '*' then (0, none) else (1, none)
            return .repetition least most (← greed) last :: back

/-! ## §3  Branches -/

def primitive (c : Char) : Reading Primitive := do
  match c with
  | '\\' =>
      let start := (← get).rest
      let p ← escape
      if start.tail.head? = some 'a' then modify fun k => { k with bell := true }
      pure p
  | '.' => bump; return .dot
  | '^' => bump; return .assertion .lineStart
  | '$' => bump; return .assertion .lineEnd
  | _ => bump; return .literal c false

/-- Reads branches up to the end of the text or to a closing parenthesis, where it stops.  `done`
holds the branches before and `back` the items of this one, the last ones first. -/
def branches : Nat → List Tree → List Tree → Reading Tree
  | 0, _, _ => malformed
  | n + 1, done, back => do
      bumpBlanks
      match ← char? with
      | none => return .ofBranches (.ofItems back.reverse :: done).reverse
      | some ')' => return .ofBranches (.ofItems back.reverse :: done).reverse
      | some '|' =>
          bump
          branches n (.ofItems back.reverse :: done) []
      | some '(' =>
          match ← opening with
          | .flags changes =>
              if let some on := changeOf? .verbose changes then
                modify fun c => { c with verbose := on }
              branches n done (.flags changes :: back)
          | .plain changes =>
              let inner ← group n ((changeOf? .verbose changes).getD (← get).verbose)
              branches n done (.group changes inner :: back)
          | .capture index =>
              let inner ← group n (← get).verbose
              branches n done (.capture index inner :: back)
      | some '[' =>
          let class_ ← bracket
          branches n done (class_ :: back)
      | some c =>
          if c = '?' ∨ c = '*' ∨ c = '+' ∨ c = '\x7b' then
            let items ← repeatLast c back
            branches n done items
          else
            let p ← primitive c
            branches n done (p.tree :: back)
where
  /-- Reads the inside of a group and its closing parenthesis.  Behind it blanks count as before
  the group. -/
  group (n : Nat) (verbose : Bool) : Reading Tree := do
    let before := (← get).verbose
    modify fun c => { c with verbose }
    let inner ← branches n [] []
    modify fun c => { c with verbose := before }
    if (← char?) = some ')' then
      bump
      pure inner
    else malformed

end Reading

def nestingLimit : Nat := 250

/-- Reads a whole pattern; the cursor tells what was met on the way. -/
def Tree.readWith (text : String) : Except Fault (Tree × Cursor) := do
  let cs := text.toList
  let (tree, cursor) ← (Reading.branches (cs.length + 1) [] []).run { rest := cs }
  if cursor.rest.isEmpty && tree.nesting ≤ nestingLimit then return (tree, cursor)
  else throw .malformed

def Tree.read (text : String) : Except Fault Tree := return (← Tree.readWith text).1

end ReplySchema.Pattern
