import ReplySchema.Pattern.Backtracking.Escape

/-! # Reading patterns that look around

The grammar is that of plain patterns with looks around, atomic groups, references and
conditions.  Braces that hold no counts are characters.  A flag that is set inside a
group holds beyond it.

Functions take a fuel; as each level takes a character, the length of the text decides
how much is enough.
-/

set_option autoImplicit false

namespace ReplySchema.Pattern.Backtracking

namespace Reading

def groupLimit : Nat := 64

/-! ## §1  Flags -/

def changeFlag (flag : Flag) (on : Bool) : Reading Unit :=
  modify fun c =>
    { c with
      flags := c.flags.change (flag, on)
      verbose := if flag = .verbose then on else c.verbose }

inductive FlagEnd where
  /-- With the group. -/
  | closed
  /-- With a colon, behind which the group goes on. -/
  | opened
deriving DecidableEq

/-- Reads flags.  `on` tells whether they are set or cleared, and `last` is the character before,
if there is one. -/
def flagRow : Nat → Bool → Option Char → Reading FlagEnd
  | 0, _, _ => fail
  | n + 1, on, last => do
      skipSpace
      match ← rest with
      | [] => fail
      | c :: more =>
          if c = ')' then
            if last.isNone || last = some '-' then fail
            else
              goTo more
              return .closed
          else if c = ':' then
            if last = some '-' then fail
            else
              goTo more
              return .opened
          else if c = '-' then
            if !on then fail
            else
              goTo more
              flagRow n false (some c)
          else
            match Pattern.Reading.flagOf? c with
            | none => fail
            | some flag =>
                if flag = .unicode && !on then fail
                else
                  goTo more
                  changeFlag flag on
                  flagRow n on (some c)

/-! ## §2  Counts -/

/-- Reads the counts of a repetition behind the opening brace. -/
def counts? (verbose : Bool) (cs : List Char) : Option (Nat × Option Nat × List Char) := do
  let space (cs : List Char) : Option (List Char) := pastSpace verbose (cs.length + 1) cs
  let cs ← space cs
  let (least, cs) ← if cs.head? = some ',' then some (0, cs) else decimal? cs
  match ← space cs with
  | '\x7d' :: more => some (least, some least, more)
  | ',' :: more =>
      let cs ← space more
      let (most, cs) := match decimal? cs with
        | some (m, cs) => (some m, cs)
        | none => (none, cs)
      match ← space cs with
      | '\x7d' :: more => some (least, most, more)
      | _ => none
  | _ => none

/-- Reads how often the last item is repeated, if it is. -/
def repetition? : Reading (Option (Nat × Option Nat)) := do
  match ← rest with
  | '?' :: more =>
      goTo more
      return some (0, some 1)
  | '*' :: more =>
      goTo more
      return some (0, none)
  | '+' :: more =>
      goTo more
      return some (1, none)
  | '\x7b' :: more =>
      match counts? (← get).verbose more with
      | some (least, most, behind) =>
          goTo behind
          return some (least, most)
      | none => return none
  | _ => return none

/-- Repeats an item, reluctantly behind a question mark, and for good behind a plus. -/
def repeatItem (item : Tree) (least : Nat) (most : Option Nat) : Reading Tree := do
  if !item.isRepeatable then fail
  else
    skipSpace
    let lazy_ ← skipIf "?"
    let tree := Tree.repeated item least most (lazy_ == (← get).flags.swapGreed)
    return if ← skipIf "+" then .atomic tree else tree

/-! ## §3  Groups -/

/-- How a group starts. -/
inductive Opening where
  | look (kind : Look)
  | remembers
  | atomic
  | conditional
  /-- A reference in parentheses, which is already read. -/
  | reference (tree : Tree)
  | flags

def countGroup : Reading Unit := modify fun c => { c with groups := c.groups + 1 }

def namedGroup (close : Char) : Reading Opening := do
  countGroup
  match name? close (← rest) with
  | some (name, more) =>
      goTo more
      modify fun c => { c with names := (name, c.groups) :: c.names }
      return .remembers
  | none => fail

/-- Reads the start of a group; the cursor is behind its parenthesis. -/
def opening : Reading Opening := do
  skipSpace
  if ← skipIf "?=" then return .look .ahead
  else if ← skipIf "?!" then return .look .notAhead
  else if ← skipIf "?<=" then return .look .behind
  else if ← skipIf "?<!" then return .look .notBehind
  else if ← skipIf "?<" then namedGroup '>'
  else if ← skipIf "?'" then namedGroup '\''
  else if ← skipIf "?P<" then namedGroup '>'
  else if ← skipIf "?P=" then return .reference (← namedReference ')' false)
  else if ← skipIf "?>" then return .atomic
  else if ← skipIf "?(" then return .conditional
  else if ← skipIf "?" then return .flags
  else
    countGroup
    return .remembers

/-- A condition with the branches behind it; a reference asks whether its group has matched. -/
def withBranches (test : Tree) (branches : Tree) : Tree :=
  let (yes, no) := match branches with
    | .alternation (yes :: [no]) => (yes, no)
    | .alternation (yes :: more) => (yes, .alternation more)
    | _ => (branches, .empty)
  let test := match test with
    | .backReference g _ => .hasMatched g
    | _ => test
  if yes.isEmpty && no.isEmpty then test else .conditional test yes no

/-! ## §4  Expressions -/

def sequence : List Tree → Tree
  | [] => .empty
  | [t] => t
  | items => .concat items

mutual
def expression : Nat → Nat → Reading Tree
  | 0, _ => fail
  | n + 1, depth => do
      let first ← branch n depth []
      skipSpace
      match ← moreBranches n depth with
      | [] =>
          let c ← get
          if c.numbered && !c.names.isEmpty then fail else return first
      | more => return .alternation (first :: more)

def moreBranches : Nat → Nat → Reading (List Tree)
  | 0, _ => fail
  | n + 1, depth => do
      if ← skipIf "|" then
        let next ← branch n depth []
        skipSpace
        return next :: (← moreBranches n depth)
      else return []

/-- Reads items as long as there are some; `back` holds those before, the last one first. -/
def branch : Nat → Nat → List Tree → Reading Tree
  | 0, _, _ => fail
  | n + 1, depth, back => do
      let before := (← rest).length
      let item ← piece n depth
      if (← rest).length = before then return sequence back.reverse
      else branch n depth (if item.isEmpty then back else item :: back)

def piece : Nat → Nat → Reading Tree
  | 0, _ => fail
  | n + 1, depth => do
      let item ← atom n depth
      skipSpace
      match ← repetition? with
      | some (least, most) => repeatItem item least most
      | none => return item

/-- Reads an item, which is empty where a sequence ends. -/
def atom : Nat → Nat → Reading Tree
  | 0, _ => fail
  | n + 1, depth => do
      skipSpace
      match ← rest with
      | [] => return .empty
      | c :: more =>
          if ['+', '*', '?', '|', ')'].contains c then return .empty
          else
            goTo more
            let f := (← get).flags
            match c with
            | '.' => return .any f.dotAll f.carriageReturn
            | '^' => return .edge (if f.multiline then .lineStart f.carriageReturn else .textStart)
            | '$' => return .edge (if f.multiline then .lineEnd f.carriageReturn else .textEnd)
            | '(' => group n (depth + 1)
            | '\\' => escape
            | '[' => bracket
            | _ => literal c

/-- Reads a group; the cursor is behind its parenthesis. -/
def group : Nat → Nat → Reading Tree
  | 0, _ => fail
  | n + 1, depth => do
      if groupLimit ≤ depth then fail
      else
        match ← opening with
        | .look kind => return .look kind (← inside n depth)
        | .remembers => return .group (← inside n depth)
        | .atomic => return .atomic (← inside n depth)
        | .reference tree => return tree
        | .conditional =>
            let test ← condition n depth
            closeGroup
            let before := (← rest).length
            let branches ← expression n depth
            let empty := (← rest).length == before
            closeGroup
            if empty then
              match test with
              | .backReference g _ => return .hasMatched g
              | _ => fail
            else return withBranches test branches
        | .flags =>
            let before ← get
            match ← flagRow (before.rest.length + 1) true none with
            | .closed => return .empty
            | .opened =>
                let inner ← inside n depth
                modify fun c => { c with flags := before.flags, verbose := before.verbose }
                return inner

def inside : Nat → Nat → Reading Tree
  | 0, _ => fail
  | n + 1, depth => do
      let inner ← expression n depth
      closeGroup
      return inner

def condition : Nat → Nat → Reading Tree
  | 0, _ => fail
  | n + 1, depth => do
      match ← rest with
      | [] => fail
      | c :: _ =>
          if c.isDigit then numberedReference
          else if ← skipIf "'" then namedReference '\'' true
          else if ← skipIf "<" then namedReference '>' true
          else expression n depth
end

end Reading

/-- The levels of the grammar that reading passes through from one character to the next. -/
def levelsPerChar : Nat := 8

/-- Reads a whole pattern; the answer holds the groups that references lead to, too. -/
def Tree.read? (text : String) : Option (Tree × List Nat) := do
  let cs := text.toList
  let start : Cursor := { rest := cs, groupBound := text.utf8ByteSize / 2 }
  let (tree, cursor) ← (Reading.expression (levelsPerChar * (cs.length + 1)) 0).run start
  if cursor.rest.isEmpty then some (tree, cursor.referenced) else none

end ReplySchema.Pattern.Backtracking
