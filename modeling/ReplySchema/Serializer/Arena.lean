import ReplySchema.Serializer.Writer

/-! # Plans as they lie in memory

A plan is kept as a list of cells that name one another by their places.  A cell is written
after those that it names, so places are handed out in the order in which a sketch is gone
through.  A reference is the exception: the place of its target is handed out before the
target is compiled, with a cell that says nothing yet.  The target's own references can so
come back to it.  When the target is done, the cell is made an alias of it, unless that would
close a circle of aliases.

Compiling is a step that can fail, and what was written by then stays.  The steps also note
which targets were compiled.
-/

set_option autoImplicit false

namespace ReplySchema.Serializer

/-! ## §1  Cells -/

/-- A shape whose parts are named by their places. -/
inductive Cell where
  | any
  /-- Written as the cell at another place. -/
  | alias (place : Nat)
  | const (value : Json)
  | null
  | boolean
  | integer
  | number
  | string
  | object (properties : List (Property Nat)) (required : List String)
      (patterns : List (Pattern × Nat)) (others : Others Nat)
  | array (front : List Nat) (rest : Nat)
  | union (branches : List (Branch Validator Nat))
  | nullable (inner : Nat)

def Cell.places : Cell → List Nat
  | .alias place => [place]
  | .object properties _ patterns others =>
      properties.map (·.shape) ++ patterns.map (·.2) ++
        match others with
        | .shaped place => [place]
        | _ => []
  | .array front rest => front ++ [rest]
  | .union branches => branches.map (·.shape)
  | .nullable inner => [inner]
  | _ => []

/-- A plan in the making. -/
structure Arena where
  nodes : List Cell := []
  /-- The places of the targets met so far. -/
  memo : Table Schema.Key Nat := []
  /-- The targets that were compiled, one entry for each time. -/
  compiled : List Schema.Key := []

namespace Arena

/-- Whether a way of aliases from a place leads to a slot.  At most `steps` places are looked at; a
longer way would go round somewhere. -/
def aliasesBack (nodes : List Cell) (slot : Nat) : Nat → Nat → Bool
  | 0, _ => true
  | steps + 1, place =>
      if place = slot then true
      else
        match nodes[place]? with
        | some (.alias next) => aliasesBack nodes slot steps next
        | _ => false

/-! ## §2  Compiling -/

/-- A step that goes on with what was written when it fails. -/
abbrev Building := ExceptT SchemaError (StateM Arena)

def push (cell : Cell) : Building Nat := do
  let arena ← get
  set { arena with nodes := arena.nodes ++ [cell] }
  return arena.nodes.length

/-- Hands out a place for a target that is about to be compiled. -/
def enter (key : Schema.Key) : Building Nat := do
  let slot ← push .any
  modify fun arena => { arena with
    memo := Table.insert key slot arena.memo
    compiled := arena.compiled ++ [key] }
  return slot

/-- Makes the cell of a target an alias of what the target was compiled to, unless that leads only
back to the target. -/
def settle (slot inner : Nat) : Building Unit :=
  modify fun arena =>
    if aliasesBack arena.nodes slot (arena.nodes.length + 1) inner then arena
    else { arena with nodes := arena.nodes.set slot (.alias inner) }

section
variable (onReference : Except SchemaError String → Building Nat)
variable (test : Json → Option Validator)

mutual
/-- Writes the cells of a sketch and says where the whole is. -/
def compile : Sketch → Building Nat
  | .any => push .any
  | .reference r => onReference r
  | .const v => push (.const v)
  | .null => push .null
  | .boolean => push .boolean
  | .integer => push .integer
  | .number => push .number
  | .string => push .string
  | .object properties required patterns others => do
      let properties ← compileProperties properties
      let patterns ← compilePatterns patterns
      push (.object properties required patterns (← compileOthers others))
  | .array front rest => do
      let front ← compileList front
      push (.array front (← compile rest))
  | .union branches => do push (.union (← compileBranches branches))
  | .nullable inner => do push (.nullable (← compile inner))

def compileProperties : List (Property Sketch) → Building (List (Property Nat))
  | [] => pure []
  | ⟨name, default, shape⟩ :: more => do
      let place ← compile shape
      return ⟨name, default, place⟩ :: (← compileProperties more)

def compilePatterns : List (Pattern × Sketch) → Building (List (Pattern × Nat))
  | [] => pure []
  | (pattern, shape) :: more => do
      let place ← compile shape
      return (pattern, place) :: (← compilePatterns more)

def compileOthers : Others Sketch → Building (Others Nat)
  | .dropped => pure .dropped
  | .plain => pure .plain
  | .shaped shape => return .shaped (← compile shape)

def compileList : List Sketch → Building (List Nat)
  | [] => pure []
  | shape :: more => do
      let place ← compile shape
      return place :: (← compileList more)

def compileBranches : List (Branch Json Sketch) → Building (List (Branch Validator Nat))
  | [] => pure []
  | ⟨given, shape⟩ :: more => do
      let place ← compile shape
      return ⟨given.bind test, place⟩ :: (← compileBranches more)
end

end

/-- Compiles a sketch of `base`, and the targets of its references.  `room` targets may be entered
one inside the other, and `parts` parts be made ready one inside the other; where that is not
enough the stack is used up. -/
def compileBelow (set : Schema.Set) (parts : Nat) :
    Nat → Schema.Source → Sketch → Building Nat
  | room, base, sketch =>
      compile
        (fun reference => do
          let target ← (reference.bind fun r => set.resolve r base : Except SchemaError _)
          match Table.find? target.key (← get).memo with
          | some place => return place
          | none =>
              match room with
              | 0 => throw .stackUsedUp
              | room + 1 => do
                  let slot ← enter target.key
                  let inner ← compileBelow set parts room target.source
                    (.ofSchemaWithin parts set target.source target.schema)
                  settle slot inner
                  return slot)
        (Plan.testOf set base) sketch

/-- Compiles a schema of `base` from nothing: the place of the whole, or why there is none, and what
was written. -/
def build (set : Schema.Set) (parts room : Nat) (base : Schema.Source) (schema : Json) :
    Except SchemaError Nat × Arena :=
  (compileBelow set parts room base (.ofSchemaWithin parts set base schema)).run.run {}

/-! ## §3  Writing -/

section
variable (arena : Arena) (rounding : Rounding)
-- What is done where a place has no cell.
variable (missing : Json → Except SerializeError Written) (missingLooks : Bool)

/-- Whether the outermost form of a value is that of a cell. -/
def looksLike : Nat → Nat → Json → Bool
  | 0, _, _ => true
  | room + 1, place, v =>
      match arena.nodes[place]? with
      | none => missingLooks
      | some .any => true
      | some (.alias next) => looksLike room next v
      | some (.const expected) => expected.same v
      | some .null => v.isNull
      | some .boolean => Validation.TypeName.boolean.admits v
      | some .integer => Validation.TypeName.integer.admits v
      | some .number => Validation.TypeName.number.admits v
      | some .string => Validation.TypeName.string.admits v
      | some (.object _ _ _ _) => v.isObject
      | some (.array _ _) => Validation.TypeName.array.admits v
      | some (.union branches) => branches.any fun b => looksLike room b.shape v
      | some (.nullable inner) => v.isNull || looksLike room inner v

def accepts (branch : Branch Validator Nat) (v : Json) : Bool :=
  match branch.test with
  | some validator => validator.accepts v
  | none => arena.looksLike missingLooks Plan.lookDepth branch.shape v

/-- The alternative that a value is written by: the first that takes it, else the first. -/
def choose? (branches : List (Branch Validator Nat)) (v : Json) : Option Nat :=
  ((branches.find? fun b => arena.accepts missingLooks b v) <|> branches.head?).map (·.shape)

/-- Writes a value by the cell at a place; `room` cells may be entered one inside the other. -/
def write : Nat → Nat → Json → Except SerializeError Written
  | 0, _, _ => throw .tooDeep
  | room + 1, place, v =>
      match arena.nodes[place]? with
      | none => missing v
      | some .any => pure (.ofJson v)
      | some (.alias next) => write room next v
      | some (.const expected) => pure (.ofJson expected)
      | some .null => pure .null
      | some .boolean => pure (.bool (Coercion.truthy v))
      | some .integer =>
          match Coercion.integerChars? rounding v with
          | some digits => pure (.number digits)
          | none => throw (.notInteger v)
      | some .number =>
          match Coercion.numberChars? v with
          | some digits => pure (.number digits)
          | none => throw (.notNumber v)
      | some .string => pure (.string (Plan.stringText v))
      | some (.object properties required patterns others) =>
          Plan.writeObject (write room) properties required patterns others v
      | some (.array front rest) =>
          match v with
          | .array items => return .array (← Plan.writeItems (write room) rest front items)
          | _ => throw (.notArray v)
      | some (.union branches) =>
          match arena.choose? missingLooks branches v with
          | some place => write room place v
          | none => pure (.ofJson v)
      | some (.nullable inner) => if v.isNull then pure .null else write room inner v

end

end Arena

end ReplySchema.Serializer
