import ReplySchema.Engine.BuildError
import ReplySchema.Engine.Event
import ReplySchema.Reply.Basic
import ReplySchema.Schema.Set

/-! # Scopes

Scopes form a tree.  What is bound to a scope is in force for the scopes below it until
one of them binds its own: a compiler, a serializer that bypasses schemas, a handler of
errors.  Shared schemas are visible below the scope that registers them, and observers
add up.  A scope looks only upwards, so what happens beside it or below it does not
matter to it.

Everything inherited is a statement about the *chain* of a scope: the scope, its parent,
and so on up to the root.
-/

set_option autoImplicit false

namespace ReplySchema

-- Sums are those of the core library, whatever else is imported.
attribute [local instance (high)] Zero.ofOfNat0

namespace Address

def joinChars (front path : List Char) : List Char :=
  match Text.dropEndWhile (· == '/') front, path with
  | [], '/' :: rest => '/' :: rest
  | [], path => '/' :: path
  | front, [] => front
  | front, ['/'] => front
  | front, '/' :: rest => front ++ '/' :: rest
  | front, path => front ++ '/' :: path

/-- A path behind a prefix, with one slash between them.  Blanks around the path and slashes at
the end of the prefix do not count, and an empty path or a lone slash adds nothing to a prefix. -/
def join (front path : String) : String :=
  String.ofList (joinChars front.toList (Text.trim path).toList)

end Address

/-- One scope. -/
structure Scope where
  parent : Option ScopeId := none
  /-- The prefix of addresses, that of the parent included. -/
  address : String := ""
  schemas : Schema.Store := {}
  /-- How many schemas were registered. -/
  generation : Nat := 0
  compiler : Option Compiler := none
  replySerializer : Option ReplySerializer := none
  errorHandler : Option ErrorHandler := none
  observers : List Observer := []

/-- The scopes of an engine in the order in which they were made; the first is the root. -/
structure ScopeTree where
  scopes : List Scope := [{}]

namespace ScopeTree

def get? (tree : ScopeTree) (id : ScopeId) : Option Scope := tree.scopes[id.index]?

def get (tree : ScopeTree) (id : ScopeId) : Except EngineError Scope :=
  match tree.get? id with
  | some s => .ok s
  | none => .error (.unknownScope id)

def child (tree : ScopeTree) (parent : ScopeId) (path : String) :
    Except EngineError (ScopeTree × ScopeId) := do
  let above ← tree.get parent
  let scope : Scope := { parent := some parent, address := Address.join above.address path }
  return ({ scopes := tree.scopes ++ [scope] }, ⟨tree.scopes.length⟩)

def update (tree : ScopeTree) (id : ScopeId) (change : Scope → Scope) :
    Except EngineError ScopeTree := do
  let scope ← tree.get id
  return { scopes := tree.scopes.set id.index (change scope) }

/-! ## Inheritance -/

/-- The scope and those above it, the root last.  A parent is older than its children, so the
way up ends. -/
def chain (tree : ScopeTree) (id : ScopeId) : List Scope :=
  match tree.get? id with
  | none => []
  | some scope =>
      scope :: match scope.parent with
        | none => []
        | some parent => if parent.index < id.index then tree.chain parent else []
termination_by id.index

def compiler? (tree : ScopeTree) (id : ScopeId) : Option Compiler :=
  (tree.chain id).findSome? Scope.compiler

def replySerializer? (tree : ScopeTree) (id : ScopeId) : Option ReplySerializer :=
  (tree.chain id).findSome? Scope.replySerializer

def errorHandler? (tree : ScopeTree) (id : ScopeId) : Option ErrorHandler :=
  (tree.chain id).findSome? Scope.errorHandler

/-- The observers, those of the outermost scope first. -/
def observers (tree : ScopeTree) (id : ScopeId) : List Observer :=
  (tree.chain id).reverse.flatMap Scope.observers

/-- The number of schemas that were registered on the chain. -/
def generation (tree : ScopeTree) (id : ScopeId) : Nat :=
  ((tree.chain id).map Scope.generation).sum

def schemaSet (tree : ScopeTree) (id : ScopeId) : Schema.Set :=
  Schema.Set.ofStores ((tree.chain id).reverse.map Scope.schemas) (tree.generation id)

/-- Registers a shared schema.  One of the same identifier must not be visible yet. -/
def registerSchema (tree : ScopeTree) (id : ScopeId) (root : Json) :
    Except EngineError ScopeTree := do
  let scope ← tree.get id
  let document ← (Schema.Document.ofShared? root).mapError EngineError.schema
  match document.id.filter (tree.schemaSet id).contains with
  | some existing => throw (.schema (.alreadyPresent existing))
  | none =>
      let (store, _) ← (scope.schemas.register root).mapError EngineError.schema
      tree.update id fun s => { s with schemas := store, generation := s.generation + 1 }

end ScopeTree

end ReplySchema
