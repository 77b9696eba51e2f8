import ReplySchema.Pattern.Backtracking.Tree
import ReplySchema.Pattern.Meaning
import ReplySchema.Pattern.Reader

/-! # Going over the text of a pattern that looks around

The cursor knows the rest of the text, the flags in force, and the groups and the
references to groups so far.  A text that is no pattern gives nothing; why, nobody asks.
-/

set_option autoImplicit false

namespace ReplySchema.Pattern.Backtracking

-- Powers are those of the core library, whatever else is imported.
attribute [local instance (high)] instPowNat

/-- A place in the text of a pattern, and what came before it. -/
structure Cursor where
  rest : List Char
  flags : Flags := {}
  /-- Whether blanks and comments are passed over. -/
  verbose : Bool := false
  /-- The number of groups that remember. -/
  groups : Nat := 0
  names : List (String × Nat) := []
  /-- The groups that references lead to. -/
  referenced : List Nat := []
  /-- Whether a reference was written with the number of its group. -/
  numbered : Bool := false
  /-- References lead to groups below this number. -/
  groupBound : Nat

abbrev Reading := StateT Cursor Option

namespace Reading

def fail {α : Type} : Reading α := fun _ => none

def rest : Reading (List Char) := return (← get).rest

def goTo (cs : List Char) : Reading Unit := modify fun c => { c with rest := cs }

def skip (n : Nat) : Reading Unit := modify fun c => { c with rest := c.rest.drop n }

def skipIf (text : String) : Reading Bool := do
  if text.toList.isPrefixOf (← rest) then
    skip text.length
    pure true
  else pure false

/-- What is behind a comment in parentheses, given its inside. -/
def pastComment : List Char → Option (List Char)
  | [] => none
  | ')' :: rest => some rest
  | '\\' :: rest =>
      match rest with
      | _ :: more => pastComment more
      | [] => none
  | _ :: rest => pastComment rest

/-- What is behind blanks and comments; comments in parentheses are passed over always. -/
def pastSpace (verbose : Bool) : Nat → List Char → Option (List Char)
  | 0, cs => some cs
  | n + 1, cs =>
      match cs with
      | '(' :: '?' :: '#' :: inside => (pastComment inside).bind (pastSpace verbose n)
      | '#' :: comment =>
          if verbose then pastSpace verbose n ((comment.dropWhile (· != '\n')).drop 1) else some cs
      | c :: more =>
          if verbose && (c == ' ' || c == '\r' || c == '\n' || c == '\t') then
            pastSpace verbose n more
          else some cs
      | [] => some cs

def skipSpace : Reading Unit := do
  let c ← get
  match pastSpace c.verbose (c.rest.length + 1) c.rest with
  | some cs => goTo cs
  | none => fail

/-- Goes past a closing parenthesis, with blanks before it. -/
def closeGroup : Reading Unit := do
  skipSpace
  if ← skipIf ")" then pure () else fail

/-! ## Numbers and names -/

def decimal? (cs : List Char) : Option (Nat × List Char) :=
  let ds := cs.takeWhile Char.isDigit
  if ds.isEmpty || 2 ^ (64 : Nat) ≤ Decimal.ofDigits ds then none
  else some (Decimal.ofDigits ds, cs.drop ds.length)

def isNameChar (c : Char) : Bool :=
  c == '_' || c.isAlphanum || (0x80 ≤ c.toNat && Pattern.Reading.isNameChar false c)

def name? (close : Char) (cs : List Char) : Option (String × List Char) :=
  let name := cs.takeWhile isNameChar
  match cs.drop name.length with
  | c :: rest => if c = close ∧ !name.isEmpty then some (String.ofList name, rest) else none
  | [] => none

/-- Notes a reference to a group. -/
def refer (index : Nat) : Reading Tree := do
  modify fun c => { c with referenced := index :: c.referenced }
  return .backReference index (← get).flags.caseless

def numberedReference : Reading Tree := do
  match decimal? (← rest) with
  | some (index, more) =>
      if index < (← get).groupBound then
        goTo more
        modify fun c => { c with numbered := true }
        refer index
      else fail
  | none => fail

/-- The group that a name, a number, or a number counted back from the next group means. -/
def groupOf? (c : Cursor) (name : List Char) : Option Nat :=
  match c.names.lookup (String.ofList name), name with
  | some index, _ => some index
  | none, '-' :: ds =>
      (Decimal.natOf? ds).bind fun n => if n ≤ c.groups then some (c.groups + 1 - n) else none
  | none, _ => Decimal.natOf? name

/-- Reads a reference by name up to a closing mark; `relative` numbers may have a sign. -/
def namedReference (close : Char) (relative : Bool) : Reading Tree := do
  let cs ← rest
  let sign := if relative && cs.head? == some '-' then ['-'] else []
  match name? close (cs.drop sign.length) with
  | some (name, more) =>
      goTo more
      match groupOf? (← get) (sign ++ name.toList) with
      | some index => refer index
      | none => fail
  | none => fail

end Reading

end ReplySchema.Pattern.Backtracking
