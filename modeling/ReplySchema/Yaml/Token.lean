import ReplySchema.Yaml.Scalar
import ReplySchema.Yaml.Tag

/-! # Tokens of YAML

A text is first cut into tokens: the marks, the names, the scalars, and for each block
collection a token where it begins and one where it ends, which the columns tell.

A key in front of a colon has no mark of its own, so it is known only at the colon.  Until
then the place is remembered where a key may have begun, and its token is put there later.
Such a place is forgotten when its line ends or when it lies too far back; at the column of
a block collection that is an error, because only a key can stand there.
-/

set_option autoImplicit false

namespace ReplySchema.Yaml

/-- A part of a text. -/
inductive Token where
  | directive (said : Directive)
  | documentStart
  | documentEnd
  | blockSequence
  | blockMapping
  | blockEnd
  | flowSequence
  | flowSequenceEnd
  | flowMapping
  | flowMappingEnd
  | item
  | comma
  | key
  | value
  | alias (name : String)
  | anchor (name : String)
  | tag (handle suffix : String)
  | scalar (plain : Bool) (text : String)
deriving DecidableEq

/-- A place where a key may have begun. -/
structure PossibleKey where
  index : Nat
  line : Nat
  column : Nat
  /-- How many tokens stand before it. -/
  place : Nat
  /-- Whether nothing but a key can stand there. -/
  required : Bool

/-- How far the colon may be from the start of its key, in octets. -/
def PossibleKey.reach : Nat := 1024

/-- Whether a place lies too far back to be the start of a key. -/
def PossibleKey.isStale (k : PossibleKey) (c : Cursor) : Bool :=
  k.line < c.line || k.index + reach < c.index

/-- A text of which the tokens are being taken. -/
structure Scan where
  cursor : Cursor
  /-- Whether a block collection or a key may begin here. -/
  fresh : Bool := true
  /-- The columns of the open block collections, the innermost first. -/
  columns : List Nat := []
  /-- Where a key may have begun: outside brackets. -/
  base : Option PossibleKey := none
  /-- Where a key may have begun: in each open pair of brackets, the innermost first. -/
  inside : List (Option PossibleKey) := []
  /-- The tokens taken, backwards. -/
  tokens : List Token := []
  count : Nat := 0

/-- A step over a text. -/
abbrev Scanner := StateT Scan Option

namespace Scan

def flow (s : Scan) : Bool := !s.inside.isEmpty

/-- The first column at which more can belong to the innermost block collection. -/
def margin (s : Scan) : Nat :=
  match s.columns with
  | [] => 0
  | column :: _ => column + 1

def possible (s : Scan) : Option PossibleKey :=
  match s.inside with
  | [] => s.base
  | k :: _ => k

def setPossible (s : Scan) (k : Option PossibleKey) : Scan :=
  match s.inside with
  | [] => { s with base := k }
  | _ :: outer => { s with inside := k :: outer }

def emit (s : Scan) (t : Token) : Scan :=
  { s with tokens := t :: s.tokens, count := s.count + 1 }

def emitAt (s : Scan) (place : Nat) (t : Token) : Scan :=
  let later := s.tokens.take (s.count - place)
  let earlier := s.tokens.drop (s.count - place)
  { s with tokens := later ++ t :: earlier, count := s.count + 1 }

end Scan

namespace Scanner

/-! ## §1  Keys and columns -/

def emit (t : Token) : Scanner Unit := modify (·.emit t)

def pass (count : Nat) : Scanner Unit :=
  modify fun s => { s with cursor := s.cursor.drop count }

/-- Tells whether a block collection or a key may begin next. -/
def setFresh (fresh : Bool) : Scanner Unit := modify fun s => { s with fresh }

def refuse (k : Option PossibleKey) : Scanner Unit :=
  if k.any (·.required) then failure else pure ()

def forgetKey : Scanner Unit := do
  refuse (← get).possible
  modify (·.setPossible none)

def rememberKey : Scanner Unit := do
  let s ← get
  if s.fresh then
    forgetKey
    let c := s.cursor
    let required := !s.flow && s.columns.head? == some c.column
    modify (·.setPossible (some ⟨c.index, c.line, c.column, s.count, required⟩))

/-- Forgets all places that lie too far back. -/
def forgetStale : Scanner Unit := do
  let s ← get
  let keep (k : Option PossibleKey) : Option PossibleKey := k.filter (!·.isStale s.cursor)
  for k in s.base :: s.inside do
    refuse (k.filter (·.isStale s.cursor))
  set { s with base := keep s.base, inside := s.inside.map keep }

def openBlock (column place : Nat) (t : Token) : Scanner Unit := do
  let s ← get
  if !s.flow && s.margin ≤ column then
    set { s.emitAt place t with columns := column :: s.columns }

def closeBlocks (p : Nat → Bool) : Scanner Unit := do
  let s ← get
  if !s.flow then
    let closed := s.columns.takeWhile p
    set (closed.foldl (fun s _ => s.emit .blockEnd)
      { s with columns := s.columns.dropWhile p })

/-! ## §2  Tokens -/

/-- A token that ends what was open before it: a directive or a mark of a document. -/
def closing (step : Scanner Unit) : Scanner Unit := do
  closeBlocks fun _ => true
  forgetKey
  setFresh false
  step

/-- A token behind which no key may begin, and that may be one or begin one. -/
def inKey (step : Scanner Unit) : Scanner Unit := do
  rememberKey
  setFresh false
  step

def taken {α : Type} (take : Cursor → Option (α × Cursor)) (token : α → Token) :
    Scanner Unit := do
  match take (← get).cursor with
  | none => failure
  | some (x, after) =>
      modify fun s => { s with cursor := after }
      emit (token x)

def openFlow (t : Token) : Scanner Unit := do
  rememberKey
  modify fun s => { s with inside := none :: s.inside }
  setFresh true
  pass 1
  emit t

def closeFlow (t : Token) : Scanner Unit := do
  forgetKey
  modify fun s => { s with inside := s.inside.tail }
  setFresh false
  pass 1
  emit t

/-- The mark `-` or `?`, which may open a block collection. -/
def mark (t collection : Token) (freshBehind : Bool) : Scanner Unit := do
  let s ← get
  if !s.flow && !s.fresh then failure
  openBlock s.cursor.column s.count collection
  forgetKey
  setFresh freshBehind
  pass 1
  emit t

/-- A colon: what began at the remembered place was a key. -/
def colon : Scanner Unit := do
  let s ← get
  match s.possible with
  | some k =>
      modify (·.emitAt k.place .key)
      openBlock k.column k.place .blockMapping
      modify (·.setPossible none)
      setFresh false
  | none =>
      if !s.flow && !s.fresh then failure
      openBlock s.cursor.column s.count .blockMapping
      setFresh !s.flow
  pass 1
  emit .value

/-- A plain scalar; behind a line end a key may begin again. -/
def plainScalar : Scanner Unit := inKey do
  let s ← get
  match s.cursor.plain s.flow s.margin with
  | none => failure
  | some (text, after, passed) =>
      set { s with cursor := after, fresh := passed }
      emit (.scalar true text)

/-- A tag, which a comma may end within brackets. -/
def tag : Scanner Unit := inKey do
  let s ← get
  match s.cursor.tag with
  | none => failure
  | some (handle, suffix, after) =>
      if !endsWord after.rest && !(s.flow && after.at? ',') then failure
      set { s with cursor := after }
      emit (.tag handle suffix)

def blockScalar : Scanner Unit := do
  forgetKey
  setFresh true
  taken (Cursor.block (← get).margin) (.scalar false)

/-- The next token; something stands at the cursor. -/
def token : Scanner Unit := do
  let s ← get
  let c := s.cursor
  if c.column == 0 && c.at? '%' then closing (taken Cursor.directive .directive)
  else if c.atMarker then
    closing do
      pass 3
      emit (if c.at? '-' then .documentStart else .documentEnd)
  else if c.at? '[' then openFlow .flowSequence
  else if c.at? '{' then openFlow .flowMapping
  else if c.at? ']' then closeFlow .flowSequenceEnd
  else if c.at? '}' then closeFlow .flowMappingEnd
  else if c.at? ',' then
    forgetKey
    setFresh true
    pass 1
    emit .comma
  else if c.atMark '-' then mark .item .blockSequence true
  else if c.at? '?' && (s.flow || c.atMark '?') then mark .key .blockMapping !s.flow
  else if c.at? ':' && (s.flow || c.atMark ':') then colon
  else if c.at? '*' then inKey (taken Cursor.name .alias)
  else if c.at? '&' then inKey (taken Cursor.name .anchor)
  else if c.at? '!' then tag
  else if (c.at? '|' || c.at? '>') && !s.flow then blockScalar
  else if c.at? '"' || c.at? (Char.ofNat 0x27) then
    inKey (taken Cursor.quoted (.scalar false))
  else if c.beginsPlain s.flow then plainScalar
  else failure

def all : Nat → Scanner Unit
  | 0 => failure
  | fuel + 1 => do
      let s ← get
      let (cursor, fresh) := s.cursor.skip s.flow s.fresh
      set { s with cursor, fresh }
      forgetStale
      closeBlocks fun column => cursor.column < column
      if cursor.rest.isEmpty then
        closeBlocks fun _ => true
        forgetKey
      else
        token
        all fuel

end Scanner

def Token.ofText? (cs : List Char) : Option (List Token) :=
  ((Scanner.all (cs.length + 1)).run { cursor := { rest := cs } }).map fun r =>
    r.2.tokens.reverse

end ReplySchema.Yaml
