import ReplySchema.Serializer.Rounding
import ReplySchema.Serializer.Sketch
import ReplySchema.Validation.Validator

/-! # Plans

A plan is the finished shape of a schema together with the shapes of all targets that
its references lead to.  A target is shaped once, when it is first met; its own
references come back to the table, so a schema that contains itself has a finite plan.

A target that is nothing but a reference can lead back to itself by references alone.
There is no shape at the end of such a way: the target that closes the circle is left
without one, and values are written as they are.
-/

set_option autoImplicit false

namespace ReplySchema.Serializer

abbrev Node := Shape Schema.Key Validator

/-- How the values of a schema are written. -/
structure Plan where
  root : Node
  /-- The shapes of the targets; none for one that leads only back to itself. -/
  targets : Table Schema.Key (Option Node)
  rounding : Rounding

namespace Plan

/-- Shapes are linked with the table of the targets met so far. -/
abbrev Linking := StateT (Table Schema.Key (Option Node)) (Except SchemaError)

/-- Whether the way of references from a shape leads to a target.  At most `steps` references
are followed; a longer way would go round somewhere. -/
def leadsTo (key : Schema.Key) (targets : Table Schema.Key (Option Node)) : Nat → Node → Bool
  | 0, _ => true
  | steps + 1, .reference next =>
      if next = key then true
      else
        match Table.find? next targets with
        | some (some shape) => leadsTo key targets steps shape
        | _ => false
  | _, _ => false

/-- The test of an alternative: the validator of its schema.  Formats are not checked, and a
schema that makes no validator has no test. -/
def testOf (set : Schema.Set) (base : Schema.Source) (schema : Json) : Option Validator :=
  match set.bundleSchema base schema with
  | .ok bundled => (Validator.ofSchema false bundled).toOption
  | .error _ => none

/-- Enters the shape of a target, unless it leads only back to the target. -/
def settle (key : Schema.Key) (shape : Node) : Linking Unit :=
  modify fun targets =>
    if leadsTo key targets (targets.length + 1) shape then targets
    else Table.insert key (some shape) targets

/-- Finishes a sketch of `base`: follows its references, and those of the targets.  `room`
targets may be entered one inside the other. -/
def linkBelow (set : Schema.Set) : Nat → Schema.Source → Sketch → Linking Node
  | room, base, sketch =>
      sketch.link
        (fun reference => do
          let target ← (reference.bind fun r => set.resolve r base : Except SchemaError _)
          if Table.contains target.key (← get) then return .reference target.key
          else
            match room with
            | 0 => return .any
            | room + 1 => do
                modify (Table.insert target.key none)
                let shape ← linkBelow set room target.source
                  (.ofSchema set target.source target.schema)
                settle target.key shape
                return .reference target.key)
        (fun schema => pure (testOf set base schema))

def build (set : Schema.Set) (base : Schema.Source) (schema : Json) (rounding : Rounding) :
    Except SchemaError Plan := do
  let room := set.targetBound base
  let (root, targets) ← linkBelow set room base (.ofSchema set base schema) |>.run []
  return { root, targets, rounding }

end Plan

end ReplySchema.Serializer
