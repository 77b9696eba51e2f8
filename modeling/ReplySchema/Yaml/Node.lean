import ReplySchema.Yaml.Event

/-! # YAML nodes

What a document holds once its layout is read: scalars, sequences and mappings.  A
scalar keeps its text, and whether it was written plainly, because only a plain scalar
without a tag can mean a number, a truth value or nothing.  A mapping keeps its entries as
they were written, repeated keys included.

An alias stands for what its anchor marks, so a short text can denote a large value.
The number of aliases that are followed is limited by the size of the text.
-/

set_option autoImplicit false

namespace ReplySchema.Yaml

/-- A part of a document. -/
inductive Node where
  | scalar (tag : Option String) (plain : Bool) (text : String)
  | sequence (tag : Option String) (items : List Node)
  | mapping (tag : Option String) (entries : List (Node × Node))
deriving Inhabited

namespace Node

def empty : Node := scalar none true ""

def text? : Node → Option String
  | scalar _ _ text => some text
  | _ => none

end Node

/-! ## §1  Anchors -/

def Event.anchor? {α : Type} : Event α → Option String
  | scalar anchor _ _ _ => anchor
  | beginSequence anchor _ => anchor
  | beginMapping anchor _ => anchor
  | _ => none

/-- The numbers of the anchors that were met. -/
structure Anchors where
  /-- The number that each name has now. -/
  numbers : Table String Nat := []
  /-- The event that each number belongs to, the latest first. -/
  places : List (Nat × Nat) := []

/-- An anchor at an event gets the number of names that are known.  A name that is used again
does not add to them, so the next new name takes over its number. -/
def Anchors.add (a : Anchors) (name : String) (place : Nat) : Anchors :=
  let n := a.numbers.length
  { numbers := Table.insert name n a.numbers, places := (n, place) :: a.places }

/-- Replaces the name in each alias by the number that it has there; nothing if a name is
unknown. -/
def numbered (place : Nat) (a : Anchors) :
    List (Event String) → Option (List (Event Nat) × Anchors)
  | [] => some ([], a)
  | e :: rest => do
      let known := match e.anchor? with
        | some name => a.add name place
        | none => a
      let (later, all) ← numbered (place + 1) known rest
      let e ← match e with
        | .alias name => (Table.find? name a.numbers).map Event.alias
        | .scalar anchor tag plain text => some (.scalar anchor tag plain text)
        | .beginSequence anchor tag => some (.beginSequence anchor tag)
        | .endSequence => some .endSequence
        | .beginMapping anchor tag => some (.beginMapping anchor tag)
        | .endMapping => some .endMapping
      return (e :: later, all)

/-- A document whose aliases point to events. -/
structure Document where
  events : List (Event Nat)
  places : List (Nat × Nat)

def Document.behind? (d : Document) (n : Nat) : Option (List (Event Nat)) :=
  (d.places.find? fun p => p.1 == n).map fun p => d.events.drop p.2

/-! ## §2  Nodes -/

def greatestDepth : Nat := 128

/-- How often aliases may be followed for each event of a document. -/
def greatestRepetition : Nat := 100

/-- A step of reading nodes; the state counts the aliases that may still be followed. -/
abbrev Follow := StateT Nat Option

def Follow.one : Follow Unit := do
  match ← get with
  | 0 => failure
  | n + 1 => set n

namespace Document

mutual
/-- The node that begins with these events, and the events behind it; `depth` collections may
still be opened. -/
def node (d : Document) (depth : Nat) (es : List (Event Nat)) :
    Follow (Node × List (Event Nat)) :=
  match es with
  | .alias n :: rest => do
      Follow.one
      match d.behind? n with
      | none => failure
      | some target =>
          let (node, _) ← written d depth target
          return (node, rest)
  | _ => written d depth es
termination_by (depth, 1, 0)

def written (d : Document) (depth : Nat) (es : List (Event Nat)) :
    Follow (Node × List (Event Nat)) :=
  match depth, es with
  | _, .scalar _ tag plain text :: rest => return (.scalar tag plain text, rest)
  | depth + 1, .beginSequence _ tag :: rest => do
      let (items, rest) ← items d depth rest.length rest
      return (.sequence tag items, rest)
  | depth + 1, .beginMapping _ tag :: rest => do
      let (entries, rest) ← entries d depth rest.length rest
      return (.mapping tag entries, rest)
  | _, _ => failure
termination_by (depth, 0, 0)

def items (d : Document) (depth fuel : Nat) (es : List (Event Nat)) :
    Follow (List Node × List (Event Nat)) :=
  match fuel, es with
  | _, .endSequence :: rest => return ([], rest)
  | 0, _ => failure
  | fuel + 1, es => do
      let (item, rest) ← node d depth es
      let (more, rest) ← items d depth fuel rest
      return (item :: more, rest)
termination_by (depth, 2, fuel)

def entries (d : Document) (depth fuel : Nat) (es : List (Event Nat)) :
    Follow (List (Node × Node) × List (Event Nat)) :=
  match fuel, es with
  | _, .endMapping :: rest => return ([], rest)
  | 0, _ => failure
  | fuel + 1, es => do
      let (key, rest) ← node d depth es
      let (value, rest) ← node d depth rest
      let (more, rest) ← entries d depth fuel rest
      return ((key, value) :: more, rest)
termination_by (depth, 2, fuel)
end

end Document

/-- The node that a text denotes; a text without one denotes the empty scalar. -/
def read? (text : String) : Option Node := do
  let chars := match text.toList with
    | '\ufeff' :: rest => rest
    | chars => chars
  if !chars.all isAllowed then none
  let events ← Event.ofTokens? (← Token.ofText? (uniformBreaks chars))
  if events.isEmpty then return .empty
  let (events, anchors) ← numbered 0 {} events
  let d : Document := { events, places := anchors.places }
  let (node, _) ← (d.node greatestDepth events).run' (greatestRepetition * events.length)
  return node

end ReplySchema.Yaml
