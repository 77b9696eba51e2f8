import ReplySchema.Json.Basic
import ReplySchema.Pattern.Basic

/-! # Shapes

A shape says how a value is written: as it is, as a fixed value, as one of the basic
types, as an object with given members, as an array, as the first of several shapes
that fits, or by way of a reference.

Shapes come in two stages that differ in two places only.  A *sketch* is what one schema
says by itself: a reference is still a text, and the alternatives of a union are still
told apart by schemas.  In a finished shape a reference names its target, and the
alternatives are told apart by validators.  So the type has the two kinds as parameters:
`ρ` for references and `τ` for the tests.
-/

set_option autoImplicit false

namespace ReplySchema.Serializer

/-- A declared member of an object, with what stands in for a missing value. -/
structure Property (σ : Type) where
  name : String
  default : Option Json
  shape : σ

/-- What happens to members that are neither declared nor match a pattern. -/
inductive Others (σ : Type) where
  /-- They are left out. -/
  | dropped
  /-- They are written as they are. -/
  | plain
  /-- They are written in a shape. -/
  | shaped (shape : σ)

/-- An alternative of a union; without a test it is told by its outermost form. -/
structure Branch (τ σ : Type) where
  test : Option τ
  shape : σ

/-- How a value is written. -/
inductive Shape (ρ τ : Type) where
  | any
  | reference (target : ρ)
  | const (value : Json)
  | null
  | boolean
  | integer
  | number
  | string
  | object (properties : List (Property (Shape ρ τ))) (required : List String)
      (patterns : List (Pattern × Shape ρ τ)) (others : Others (Shape ρ τ))
  | array (front : List (Shape ρ τ)) (rest : Shape ρ τ)
  | union (branches : List (Branch τ (Shape ρ τ)))
  /-- Null as null, anything else in the shape. -/
  | nullable (inner : Shape ρ τ)
deriving Inhabited

namespace Shape

variable {ρ τ ρ' τ' : Type} {m : Type → Type} [Monad m]
variable (onReference : ρ → m (Shape ρ' τ')) (onTest : τ → m (Option τ'))

mutual
/-- Replaces references and tests, in the order in which they stand. -/
def link : Shape ρ τ → m (Shape ρ' τ')
  | any => pure any
  | reference r => onReference r
  | const v => pure (const v)
  | null => pure null
  | boolean => pure boolean
  | integer => pure integer
  | number => pure number
  | string => pure string
  | object properties required patterns others => do
      let properties ← linkProperties properties
      let patterns ← linkPatterns patterns
      return object properties required patterns (← linkOthers others)
  | array front rest => do
      let front ← linkList front
      return array front (← link rest)
  | union branches => return union (← linkBranches branches)
  | nullable inner => return nullable (← link inner)

def linkProperties : List (Property (Shape ρ τ)) → m (List (Property (Shape ρ' τ')))
  | [] => pure []
  | ⟨name, default, shape⟩ :: more => do
      let shape ← link shape
      return ⟨name, default, shape⟩ :: (← linkProperties more)

def linkPatterns : List (Pattern × Shape ρ τ) → m (List (Pattern × Shape ρ' τ'))
  | [] => pure []
  | (pattern, shape) :: more => do
      let shape ← link shape
      return (pattern, shape) :: (← linkPatterns more)

def linkOthers : Others (Shape ρ τ) → m (Others (Shape ρ' τ'))
  | .dropped => pure .dropped
  | .plain => pure .plain
  | .shaped shape => return .shaped (← link shape)

def linkList : List (Shape ρ τ) → m (List (Shape ρ' τ'))
  | [] => pure []
  | shape :: more => do
      let shape ← link shape
      return shape :: (← linkList more)

/-- Links alternatives: each shape before its test. -/
def linkBranches : List (Branch τ (Shape ρ τ)) → m (List (Branch τ' (Shape ρ' τ')))
  | [] => pure []
  | ⟨test, shape⟩ :: more => do
      let shape ← link shape
      let test ← match test with
        | some t => onTest t
        | none => pure none
      return ⟨test, shape⟩ :: (← linkBranches more)
end

end Shape

end ReplySchema.Serializer
