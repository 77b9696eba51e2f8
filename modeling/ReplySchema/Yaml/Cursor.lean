/-! # Places in a YAML text

The layout of a YAML text carries meaning: a line break may begin a new entry, and a
column says to which collection an entry belongs.  A cursor is a place in a text with
its line, its column and the number of octets before it.
-/

set_option autoImplicit false

namespace ReplySchema.Yaml

def isBlank (c : Char) : Bool := c == ' ' || c == '\t'

/-- A line ends with a line feed, a line separator or a paragraph separator; the other line
ends are read as line feeds. -/
def isBreak (c : Char) : Bool := c == '\n' || c == '\u2028' || c == '\u2029'

/-- Whether a blank, a break or the end of the text comes next. -/
def endsWord : List Char → Bool
  | [] => true
  | c :: _ => isBlank c || isBreak c

/-- The text with every line end that has another spelling made a line feed. -/
def uniformBreaks : List Char → List Char
  | '\r' :: '\n' :: rest => '\n' :: uniformBreaks rest
  | '\r' :: rest => '\n' :: uniformBreaks rest
  | '\u0085' :: rest => '\n' :: uniformBreaks rest
  | c :: rest => c :: uniformBreaks rest
  | [] => []

def isAllowed (c : Char) : Bool :=
  let n := c.toNat
  n == 0x09 || n == 0x0A || n == 0x0D || (0x20 ≤ n && n ≤ 0x7E) || n == 0x85 ||
    (0xA0 ≤ n && n ≤ 0xFFFD) || 0x10000 ≤ n

/-- The mark of the byte order, which is nothing at the start of a line. -/
def byteOrderMark : Char := '\ufeff'

/-- A place in a text. -/
structure Cursor where
  rest : List Char
  /-- How many octets stand before the place. -/
  index : Nat := 0
  line : Nat := 0
  column : Nat := 0

namespace Cursor

/-- Behind the next character, which does not end the line. -/
def next (c : Cursor) : Cursor :=
  match c.rest with
  | [] => c
  | x :: rest => { c with rest, index := c.index + x.utf8Size, column := c.column + 1 }

def drop : Nat → Cursor → Cursor
  | 0, c => c
  | n + 1, c => drop n c.next

def nextLine (c : Cursor) : Cursor :=
  match c.rest with
  | [] => c
  | x :: rest => { rest, index := c.index + x.utf8Size, line := c.line + 1, column := 0 }

def passWhile (p : Char → Bool) (c : Cursor) : Cursor := drop (c.rest.takeWhile p).length c

def at? (c : Cursor) (x : Char) : Bool := c.rest.head? == some x

/-- Whether a line begins here that marks the start or the end of a document. -/
def atMarker (c : Cursor) : Bool :=
  c.column == 0 && (c.rest.take 3 == ['-', '-', '-'] || c.rest.take 3 == ['.', '.', '.']) &&
    endsWord (c.rest.drop 3)

/-- Whether a mark comes next, a character of its own word. -/
def atMark (c : Cursor) (mark : Char) : Bool := c.at? mark && endsWord (c.rest.drop 1)

/-- Skips blanks, comments and line ends.  Where a block collection may begin, which is so
behind a line end, a tab is not a blank; within brackets neither holds.  Tells whether a
block collection may begin behind what was skipped. -/
def skip (flow fresh : Bool) (c : Cursor) : Cursor × Bool :=
  go c.index c.line c.column fresh false c.rest
where
  /-- Skips from a place; `comment` tells that a comment is being skipped. -/
  go (index line column : Nat) (fresh comment : Bool) : List Char → Cursor × Bool
    | [] => ({ rest := [], index, line, column }, fresh)
    | x :: rest =>
        let behind := index + x.utf8Size
        if isBreak x then go behind (line + 1) 0 (fresh || !flow) false rest
        else if comment || x == ' ' || (x == '\t' && (flow || !fresh)) ||
            (x == byteOrderMark && column == 0) then
          go behind line (column + 1) fresh comment rest
        else if x == '#' then go behind line (column + 1) fresh true rest
        else ({ rest := x :: rest, index, line, column }, fresh)

/-- The blanks and line ends from a place on. -/
structure Gap where
  /-- The blanks before the first line end. -/
  blanks : List Char
  breaks : List Char
  /-- Whether a tab stands left of the margin. -/
  tabbed : Bool
  after : Cursor

def gap (margin : Nat) (c : Cursor) : Gap :=
  go c.index c.line c.column [] [] false c.rest
where
  /-- Takes from a place; what was taken is held backwards. -/
  go (index line column : Nat) (blanks breaks : List Char) (tabbed : Bool) : List Char → Gap
    | [] => ⟨blanks.reverse, breaks.reverse, tabbed, { rest := [], index, line, column }⟩
    | x :: rest =>
        let behind := index + x.utf8Size
        if isBreak x then go behind (line + 1) 0 blanks (x :: breaks) tabbed rest
        else if isBlank x then
          if breaks.isEmpty then go behind line (column + 1) (x :: blanks) breaks tabbed rest
          else
            let tabbed := tabbed || (x == '\t' && column < margin)
            go behind line (column + 1) blanks breaks tabbed rest
        else
          ⟨blanks.reverse, breaks.reverse, tabbed, { rest := x :: rest, index, line, column }⟩

/-- Line ends inside a scalar: one is a blank, of several the first is dropped. -/
def folded : List Char → List Char
  | [] => []
  | ['\n'] => [' ']
  | '\n' :: more => more
  | breaks => breaks

def Gap.text (g : Gap) : List Char := if g.breaks.isEmpty then g.blanks else folded g.breaks

end Cursor

end ReplySchema.Yaml
