import ReplySchema.Yaml.Token

/-! # Events of a YAML document

The tokens of a text are grouped to nodes: a scalar or an alias is one event, a collection
is an event where it begins, those of its parts, and one where it ends.  A node can have an
anchor and a tag in front.  Where a part may stand and nothing is written, there is an empty
scalar.

A text holds one document at most.
-/

set_option autoImplicit false

namespace ReplySchema.Yaml

/-- A step through a document; an alias points to its anchor by an `α`. -/
inductive Event (α : Type) where
  | alias (target : α)
  | scalar (anchor tag : Option String) (plain : Bool) (text : String)
  | beginSequence (anchor tag : Option String)
  | endSequence
  | beginMapping (anchor tag : Option String)
  | endMapping

/-- Tokens that are being grouped. -/
structure Grouping where
  tokens : List Token
  /-- The texts that handles of tags stand for. -/
  handles : List (String × String) := []
  /-- The events so far, backwards. -/
  events : List (Event String) := []

abbrev Grouper := StateT Grouping Option

namespace Grouper

def peek : Grouper (Option Token) := return (← get).tokens.head?

def pass : Grouper Unit := modify fun g => { g with tokens := g.tokens.tail }

def sees (ts : List Token) : Grouper Bool := return (← peek).any ts.contains

def emit (e : Event String) : Grouper Unit := modify fun g => { g with events := e :: g.events }

def nothing : Grouper Unit := emit (.scalar none none true "")

/-! ## §1  What stands in front of a node -/

def anchor? : Grouper (Option String) := do
  match ← peek with
  | some (.anchor name) => pass; return some name
  | _ => return none

def tag? : Grouper (Option (String × String)) := do
  match ← peek with
  | some (.tag handle suffix) => pass; return some (handle, suffix)
  | _ => return none

/-- The text of a tag; its handle must be known. -/
def tagText : Option (String × String) → Grouper (Option String)
  | none => return none
  | some (handle, suffix) => do
      if handle.isEmpty then return some suffix
      match (← get).handles.find? fun p => p.1 == handle with
      | some (_, text) => return some (text ++ suffix)
      | none => failure

/-- Takes an anchor and a tag, in either order. -/
def properties : Grouper (Option String × Option String) := do
  match ← anchor? with
  | some name =>
      let tag ← tag?
      return (some name, ← tagText tag)
  | none =>
      let tag ← tag?
      let anchor ← anchor?
      return (anchor, ← tagText tag)

/-! ## §2  Nodes -/

/-- The tag that tells nothing of a scalar, which is then as if it had none. -/
def plainTag : String := "!"

mutual
/-- A node.  Block collections are allowed outside brackets; a sequence may stand at the
column of the mapping that it is a part of. -/
def node : Nat → Bool → Bool → Grouper Unit
  | 0, _, _ => failure
  | fuel + 1, block, besideKey => do
      if let some (.alias name) ← peek then
        pass
        emit (.alias name)
        return
      let (anchor, tag) ← properties
      let next ← peek
      match next with
      | some .item =>
          if besideKey then
            emit (.beginSequence anchor tag)
            besideItems fuel
          else bare anchor tag
      | some (.scalar plain text) =>
          pass
          emit (.scalar anchor (tag.filter (· != plainTag)) plain text)
      | some .flowSequence =>
          pass
          emit (.beginSequence anchor tag)
          flowItems fuel true
      | some .flowMapping =>
          pass
          emit (.beginMapping anchor tag)
          flowEntries fuel true
      | some .blockSequence =>
          if block then
            pass
            emit (.beginSequence anchor tag)
            blockItems fuel
          else bare anchor tag
      | some .blockMapping =>
          if block then
            pass
            emit (.beginMapping anchor tag)
            blockEntries fuel
          else bare anchor tag
      | _ => bare anchor tag

def bare (anchor tag : Option String) : Grouper Unit :=
  if anchor.isSome || tag.isSome then emit (.scalar anchor tag true "") else failure

def nodeUnless : Nat → List Token → Bool → Bool → Grouper Unit
  | 0, _, _, _ => failure
  | fuel + 1, ts, block, besideKey => do
      if ← sees ts then nothing else node fuel block besideKey

def blockItems : Nat → Grouper Unit
  | 0 => failure
  | fuel + 1 => do
      match ← peek with
      | some .item =>
          pass
          nodeUnless fuel [.item, .blockEnd] true false
          blockItems fuel
      | some .blockEnd =>
          pass
          emit .endSequence
      | _ => failure

/-- The items of a sequence at the column of its mapping. -/
def besideItems : Nat → Grouper Unit
  | 0 => failure
  | fuel + 1 => do
      match ← peek with
      | some .item =>
          pass
          nodeUnless fuel [.item, .key, .value, .blockEnd] true false
          besideItems fuel
      | _ => emit .endSequence

def blockEntries : Nat → Grouper Unit
  | 0 => failure
  | fuel + 1 => do
      match ← peek with
      | some .key =>
          pass
          nodeUnless fuel [.key, .value, .blockEnd] true true
          if ← sees [.value] then
            pass
            nodeUnless fuel [.key, .value, .blockEnd] true true
          else nothing
          blockEntries fuel
      | some .blockEnd =>
          pass
          emit .endMapping
      | _ => failure

/-- The value of an entry within brackets, which ends at a comma or at its bracket. -/
def flowValue : Nat → Token → Grouper Unit
  | 0, _ => failure
  | fuel + 1, bracket => do
      if ← sees [.value] then
        pass
        nodeUnless fuel [.comma, bracket] false false
      else nothing

/-- The items of a sequence within brackets; an item with a mark of a key is a mapping.  A
key that is not written takes the token behind its mark with it. -/
def flowItems : Nat → Bool → Grouper Unit
  | 0, _ => failure
  | fuel + 1, first => do
      if !(← sees [.flowSequenceEnd]) && !first then
        if ← sees [.comma] then pass else failure
      match ← peek with
      | some .flowSequenceEnd =>
          pass
          emit .endSequence
      | some .key =>
          pass
          emit (.beginMapping none none)
          if ← sees [.value, .comma, .flowSequenceEnd] then
            pass
            nothing
          else node fuel false false
          flowValue fuel .flowSequenceEnd
          emit .endMapping
          flowItems fuel false
      | _ =>
          node fuel false false
          flowItems fuel false

/-- The entries of a mapping within brackets; a node without the mark of a key has nothing
for its value. -/
def flowEntries : Nat → Bool → Grouper Unit
  | 0, _ => failure
  | fuel + 1, first => do
      if !(← sees [.flowMappingEnd]) && !first then
        if ← sees [.comma] then pass else failure
      match ← peek with
      | some .flowMappingEnd =>
          pass
          emit .endMapping
      | some .key =>
          pass
          nodeUnless fuel [.value, .comma, .flowMappingEnd] false false
          flowValue fuel .flowMappingEnd
          flowEntries fuel false
      | _ =>
          node fuel false false
          nothing
          flowEntries fuel false
end

/-! ## §3  Documents -/

def commonHandles : List (String × String) := [("!", "!"), ("!!", "tag:yaml.org,2002:")]

/-- Takes the directives in front of a document: one version at most, and no handle twice.
Tells whether there was a version. -/
def directives : Nat → Bool → Grouper Unit
  | 0, _ => failure
  | fuel + 1, versioned => do
      match ← peek with
      | some (.directive (.version major minor)) =>
          if versioned || major != 1 || !(minor == 1 || minor == 2) then failure
          pass
          directives fuel true
      | some (.directive (.handle name text)) =>
          if (← get).handles.any fun p => p.1 == name then failure
          pass
          modify fun g => { g with handles := (name, text) :: g.handles }
          directives fuel versioned
      | _ => modify fun g => { g with handles := g.handles ++ commonHandles }

def isBetween : Option Token → Bool
  | none => true
  | some (.directive _) => true
  | some t => t == .documentStart || t == .documentEnd

/-- The document, and the end of the text behind it. -/
def document (fuel : Nat) : Grouper Unit := do
  let t ← peek
  if isBetween t && t != some .documentEnd then
    directives fuel false
    if ← sees [.documentStart] then pass else failure
    if isBetween (← peek) then nothing else node fuel true false
  else
    directives fuel false
    node fuel true false
  modify fun g => { g with tokens := g.tokens.dropWhile (· == .documentEnd) }
  if (← peek).isSome then failure

end Grouper

/-- The events of the document that these tokens make; there are none if there are no tokens. -/
def Event.ofTokens? (ts : List Token) : Option (List (Event String)) :=
  if ts.isEmpty then some []
  else ((Grouper.document (8 * (ts.length + 2))).run { tokens := ts }).map fun r =>
    r.2.events.reverse

end ReplySchema.Yaml
