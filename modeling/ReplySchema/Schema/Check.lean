import ReplySchema.Schema.Set

/-! # Checking references

Before anything is compiled from a schema, every reference that can be reached from it
must lead somewhere.  The check walks over the positions of a document; behind each
reference it walks over the target too, once.  It reports the first reference that
fails, in the order of the walk.

The targets on the way down are pairwise different, so the bound on their number is
room enough for the walk.
-/

set_option autoImplicit false

namespace ReplySchema.Schema.Set

/-- Checks one position of a schema of `base`: a reference there must lead somewhere, and `enter`
checks the target, unless it was entered before. -/
def checkPosition (set : Set) (base : Source)
    (enter : String → Target → List Key → Except SchemaError (List Key)) (visited : List Key)
    (position : String × Json) : Except SchemaError (List Key) :=
  match reference? position.2 with
  | none => pure visited
  | some r => do
      let t ← set.resolve r base
      if t.key ∈ visited then pure visited else enter r t visited

/-- Checks the positions of a schema and of the targets behind them.  `room` targets may still
be entered; `visited` holds those entered before. -/
def checkFrom (set : Set) : Nat → Source → Json → List Key → Except SchemaError (List Key)
  | room, base, schema, visited =>
      (positions "" schema).foldlM
        (set.checkPosition base fun r t visited =>
          match room with
          | 0 => throw (.refNotFound r base.id)
          | room + 1 => checkFrom set room t.source t.schema (t.key :: visited))
        visited

/-- Whether every reference that can be reached from a document leads somewhere. -/
def check (set : Set) (base : Source) : Except SchemaError Unit := do
  let _ ← set.checkFrom (set.targetBound base) base base.root []

end ReplySchema.Schema.Set
