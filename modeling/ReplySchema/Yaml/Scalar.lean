import ReplySchema.Json.Reader
import ReplySchema.Yaml.Cursor

/-! # YAML scalars

A scalar is written in one of four ways.  Plain and quoted scalars may run over several
lines, whose ends are folded into blanks.  A block scalar takes the lines below its mark
as they are, or folds them, and its mark says what becomes of the line ends behind it.

Every function takes the scalar from a cursor and leaves the cursor behind it.  Those
that go on over lines have a fuel; each step takes a character at least, so the length
of the rest is fuel enough, and the wrappers supply it.
-/

set_option autoImplicit false

namespace ReplySchema.Yaml

namespace Cursor

/-! ## §1  Plain scalars -/

/-- The brackets and the comma, which end a plain scalar within brackets. -/
def isFlowMark (c : Char) : Bool := c == ',' || c == '[' || c == ']' || c == '{' || c == '}'

def isIndicator (c : Char) : Bool :=
  isFlowMark c || c == '-' || c == '?' || c == ':' || c == '#' || c == '&' || c == '*' ||
    c == '!' || c == '|' || c == '>' || c == Char.ofNat 0x27 || c == '"' || c == '%' ||
    c == '@' || c == Char.ofNat 0x60

def beginsPlain (flow : Bool) (c : Cursor) : Bool :=
  match c.rest with
  | [] => false
  | x :: rest =>
      (!isIndicator x && !endsWord c.rest) || (x == '-' && !endsWord rest) ||
        (!flow && (x == '?' || x == ':') && !endsWord rest)

/-- Takes the words of a plain scalar that stand on this line, and the blanks behind them.
Within brackets a colon must not touch a bracket or comma. -/
def plainWords (flow : Bool) (c : Cursor) : Option (List Char × Cursor) :=
  go c.index c.column [] [] c.rest
where
  /-- Takes from a place on; words and blanks before it are held backwards. -/
  go (index column : Nat) (words blanks : List Char) : List Char → Option (List Char × Cursor)
    | [] => some (words.reverse, { c with rest := [], index, column })
    | x :: rest =>
        let stop := some (words.reverse, { c with rest := x :: rest, index, column })
        let behind := index + x.utf8Size
        if isBreak x then stop
        else if isBlank x then go behind (column + 1) words (x :: blanks) rest
        else if x == '#' && (words.isEmpty || !blanks.isEmpty) then stop
        else if x == ':' && endsWord rest then stop
        else if flow && x == ':' && (rest.take 1).any fun y => isFlowMark y || y == '?' then none
        else if flow && isFlowMark x then stop
        else go behind (column + 1) (x :: (blanks ++ words)) [] rest

/-- Takes the further lines of a plain scalar; `text` is what stands before them.  Tells also
whether a line end was passed behind the last word. -/
def plainLines (flow : Bool) (margin : Nat) : Nat → List Char → Cursor →
    Option (List Char × Cursor × Bool)
  | 0, _, _ => none
  | fuel + 1, text, c =>
      let g := c.gap margin
      let here := g.after
      if g.breaks.isEmpty then some (text, c, false)
      else if g.tabbed then none
      else if (!flow && here.column < margin) || here.rest.isEmpty || here.atMarker then
        some (text, here, true)
      else
        match here.plainWords flow with
        | none => none
        | some ([], _) => some (text, here, true)
        | some (words, after) =>
            plainLines flow margin fuel (text ++ folded g.breaks ++ words) after

/-- Takes a plain scalar; outside brackets its further lines keep to the margin.  Tells also
whether a line end was passed behind it. -/
def plain (flow : Bool) (margin : Nat) (c : Cursor) : Option (String × Cursor × Bool) := do
  let (words, after) ← c.plainWords flow
  let (text, after, passed) ← plainLines flow margin (c.rest.length + 1) words after
  return (String.ofList text, after, passed)

/-! ## §2  Quoted scalars -/

def hexChar? (count : Nat) (cs : List Char) : Option (Char × List Char) := do
  let digits ← (cs.take count).mapM Json.hexValue?
  let n := digits.foldl (fun n d => n * 16 + d) 0
  if digits.length == count && n.isValidChar then some (Char.ofNat n, cs.drop count) else none

def escape? : List Char → Option (Char × List Char)
  | [] => none
  | x :: rest =>
      let is (n : Nat) := some (Char.ofNat n, rest)
      match x with
      | '0' => is 0x00
      | 'a' => is 0x07
      | 'b' => is 0x08
      | 't' => is 0x09
      | '\t' => is 0x09
      | 'n' => is 0x0A
      | 'v' => is 0x0B
      | 'f' => is 0x0C
      | 'r' => is 0x0D
      | 'e' => is 0x1B
      | ' ' => is 0x20
      | '"' => is 0x22
      | '/' => is 0x2F
      | '\\' => is 0x5C
      | 'N' => is 0x85
      | '_' => is 0xA0
      | 'L' => is 0x2028
      | 'P' => is 0x2029
      | 'x' => hexChar? 2 rest
      | 'u' => hexChar? 4 rest
      | 'U' => hexChar? 8 rest
      | _ => none

/-- Takes the rest of a quoted scalar; `text` holds what stands before it backwards. -/
def quotedRest (quote : Char) : Nat → List Char → Cursor → Option (List Char × Cursor)
  | 0, _, _ => none
  | fuel + 1, text, c =>
      let onwards (g : Gap) (contribution : List Char) :=
        if g.after.atMarker then none
        else quotedRest quote fuel (contribution.reverse ++ text) g.after
      match c.rest with
      | [] => none
      | x :: rest =>
          if isBlank x || isBreak x then
            let g := c.gap 0
            onwards g g.text
          else if x == quote then
            -- a quote of the single kind stands for itself when it is written twice
            if quote != '"' && rest.head? == some quote then
              quotedRest quote fuel (x :: text) (c.drop 2)
            else some (text.reverse, c.next)
          else if quote == '"' && x == '\\' then
            match rest with
            | [] => none
            | y :: _ =>
                if isBreak y then
                  let g := c.next.nextLine.gap 0
                  onwards g g.breaks
                else
                  match escape? rest with
                  | none => none
                  | some (z, after) =>
                      quotedRest quote fuel (z :: text)
                        (c.drop (c.rest.length - after.length))
          else quotedRest quote fuel (x :: text) c.next

/-- Takes a quoted scalar; the cursor stands at its quote. -/
def quoted (c : Cursor) : Option (String × Cursor) :=
  match c.rest with
  | [] => none
  | quote :: _ => do
      let (text, after) ← quotedRest quote (c.rest.length + 1) [] c.next
      return (String.ofList text, after)

/-! ## §3  Block scalars -/

/-- What becomes of the line ends behind a block scalar. -/
inductive Chomping where
  /-- None is kept. -/
  | strip
  /-- The first is kept. -/
  | clip
  /-- All are kept. -/
  | keep
deriving DecidableEq, Repr

/-- Takes the marks behind `|` or `>`: a chomping and a number of columns, in either order. -/
def blockMarks (cs : List Char) : Option (Chomping × Option Nat × List Char) :=
  let chomping : List Char → Chomping × List Char
    | '+' :: rest => (.keep, rest)
    | '-' :: rest => (.strip, rest)
    | rest => (.clip, rest)
  let columns : List Char → Option (Option Nat × List Char)
    | x :: rest =>
        if !x.isDigit then some (none, x :: rest)
        else if x == '0' then none
        else some (some (x.toNat - '0'.toNat), rest)
    | [] => some (none, [])
  match columns cs with
  | none => none
  | some (some n, rest) =>
      let (how, rest) := chomping rest
      some (how, some n, rest)
  | some (none, rest) =>
      let (how, rest) := chomping rest
      (columns rest).map fun p => (how, p.1, p.2)

/-- The indentation of the next line of a block scalar. -/
structure Indentation where
  /-- The greatest column reached. -/
  greatest : Nat
  /-- The line ends on the way. -/
  breaks : List Char
  after : Cursor

/-- Takes the indentation up to a column, of the empty lines too; a tab is refused. -/
def indentation (upTo : Option Nat) (c : Cursor) : Option Indentation :=
  go c.index c.line c.column c.column [] c.rest
where
  /-- Takes from a place on; the line ends are held backwards. -/
  go (index line column greatest : Nat) (breaks : List Char) : List Char → Option Indentation
    | [] => some ⟨greatest, breaks.reverse, { rest := [], index, line, column }⟩
    | x :: rest =>
        let behind := index + x.utf8Size
        let inside := (upTo.map fun n => decide (column < n)).getD true
        if inside && x == ' ' then
          go behind line (column + 1) (max greatest (column + 1)) breaks rest
        else if inside && x == '\t' then none
        else if isBreak x then go behind (line + 1) 0 greatest (x :: breaks) rest
        else some ⟨greatest, breaks.reverse, { rest := x :: rest, index, line, column }⟩

/-- What a block scalar has gathered before a line. -/
structure BlockText where
  text : List Char := []
  /-- The end of the last line. -/
  lineEnd : List Char := []
  /-- The ends of the empty lines below it. -/
  emptyLines : List Char := []
  /-- Whether the last line begins with a blank, so that its end is not folded. -/
  indented : Bool := false

def BlockText.add (b : BlockText) (fold : Bool) (line lineEnd emptyLines : List Char) :
    BlockText :=
  let indented := (line.take 1).any isBlank
  let glue :=
    if fold && b.lineEnd.take 1 == ['\n'] && !b.indented && !indented then
      if b.emptyLines.isEmpty then [' '] else []
    else b.lineEnd
  { text := b.text ++ glue ++ b.emptyLines ++ line, lineEnd, emptyLines, indented }

def BlockText.chomped (b : BlockText) : Chomping → List Char
  | .strip => b.text
  | .clip => b.text ++ b.lineEnd
  | .keep => b.text ++ b.lineEnd ++ b.emptyLines

def blockLines (fold : Bool) (column : Nat) : Nat → BlockText → Cursor →
    Option (BlockText × Cursor)
  | 0, _, _ => none
  | fuel + 1, b, c =>
      if c.column != column || c.rest.isEmpty then some (b, c)
      else
        let line := c.rest.takeWhile fun x => !isBreak x
        let behind := c.drop line.length
        match behind.nextLine.indentation (some column) with
        | none => none
        | some i =>
            blockLines fold column fuel (b.add fold line (behind.rest.take 1) i.breaks) i.after

/-- Takes a block scalar; the cursor stands at its mark.  Its lines begin at a column of the
margin at least, which the mark tells or the first line shows. -/
def block (margin : Nat) (c : Cursor) : Option (String × Cursor) := do
  let (chomping, columns, rest) ← blockMarks (c.rest.drop 1)
  let behind := (c.drop (c.rest.length - rest.length)).passWhile isBlank
  let behind := if behind.at? '#' then behind.passWhile fun x => !isBreak x else behind
  if !(behind.rest.take 1).all isBreak then none
  let given := columns.map fun n => if margin == 0 then n else margin - 1 + n
  let first ← behind.nextLine.indentation given
  let column := given.getD (max (max first.greatest margin) 1)
  let (b, after) ← blockLines (c.at? '>') column (c.rest.length + 1)
    { emptyLines := first.breaks } first.after
  return (String.ofList (b.chomped chomping), after)

end Cursor

end ReplySchema.Yaml
