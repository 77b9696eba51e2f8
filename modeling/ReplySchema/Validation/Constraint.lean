import ReplySchema.Validation.Format
import ReplySchema.Validation.Violation

/-! # Constraints

A schema that has been read is a *constraint*: a tree of demands on a value.  Reading
has already done what does not depend on the value, so patterns are patterns here, and
members that act together (`properties` with `additionalProperties`, `contains` with
its counts) are one constraint.

`check` walks over constraint and value together and stops at the first violation.  On
the way it notes which members and items of the value some part has dealt with, because
the keywords for unevaluated ones speak about the others.  A schema starts with an
empty note and hands it to the schema that contains it in place.

A constraint can refer to another one by name, also to one that it is part of.  `check`
does not know how names are followed; `checkWithin` ties the two together.
-/

set_option autoImplicit false

namespace ReplySchema.Validation

-- Powers are those of the core library, whatever else is imported.
attribute [local instance (high)] instPowNat

/-- A demand on a value. -/
inductive Constraint where
  /-- Nothing is demanded. -/
  | always
  /-- No value is admitted. -/
  | never
  /-- The value must obey the constraint that goes by a name. -/
  | reference (name : String)
  /-- The parts of one schema, in the order in which they are checked. -/
  | all (parts : List Constraint)
  | types (allowed : List TypeName)
  | const (expected : Json)
  | enum (options : List Json)
  | bound (comparison : Comparison) (limit : Number)
  | multipleOf (divisor : Number)
  | least (measure : Measure) (limit : Nat)
  | most (measure : Measure) (limit : Nat)
  | required (names : List String)
  /-- Where a name is there, the names listed with it must be there too. -/
  | dependentRequired (entries : List (String × List String))
  | pattern (pattern : Pattern.Script)
  | format (name : String)
  | uniqueItems
  | properties (declared : List (String × Constraint))
  | patternProperties (patterns : List (Pattern.Script × Constraint))
  /-- Members that are neither declared nor match a pattern must obey `rest`. -/
  | additional (declared : List (String × Constraint))
      (patterns : List (Pattern.Script × Constraint))
      (rest : Constraint)
  /-- There must be no members that are neither declared nor match a pattern; `needed` must be
  among those that are there. -/
  | closed (declared : List (String × Constraint)) (patterns : List (Pattern.Script × Constraint))
      (needed : List String)
  | propertyNames (names : Constraint)
  /-- The items behind the first `skip` ones. -/
  | items (skip : Nat) (each : Constraint)
  | prefixItems (entries : List Constraint)
  /-- The number of items that obey `matching` lies between the counts. -/
  | contains (matching : Constraint) (least : Nat) (most : Option Nat)
  | dependentSchemas (entries : List (String × Constraint))
  | allOf (parts : List Constraint)
  | anyOf (parts : List Constraint)
  | oneOf (parts : List Constraint)
  /-- The value must not obey `inner`; `source` is how that was written. -/
  | not (source : Json) (inner : Constraint)
  | conditional (test yes no : Constraint)
  /-- The value must obey `inner`, but what that deals with is not noted. -/
  | aside (inner : Constraint)
  | unevaluatedProperties (rest : Constraint)
  | unevaluatedItems (rest : Constraint)

/-- The members and items of a value that some part of a schema has dealt with. -/
structure Evaluated where
  names : List String := []
  indexes : List Nat := []

namespace Evaluated

/-- What either has dealt with. -/
def merge (a b : Evaluated) : Evaluated := ⟨a.names ++ b.names, a.indexes ++ b.indexes⟩

def mergeAll (a : Evaluated) (others : List Evaluated) : Evaluated := others.foldl merge a

def addNames (names : List String) (a : Evaluated) : Evaluated :=
  { a with names := a.names ++ names }

def addIndexes (indexes : List Nat) (a : Evaluated) : Evaluated :=
  { a with indexes := a.indexes ++ indexes }

end Evaluated

/-! ## §1  Demands on the value itself -/

/-- The decimal number that the shortest text of a double denotes, as a quotient. -/
def decimalRatio? : Binary64 → Option (Int × Nat)
  | .finite negative m e =>
      if m = 0 then some (0, 1)
      else
        let d := Decimal.shortest m e
        let sign : Int := if negative then -1 else 1
        if 0 ≤ d.exponent then some (sign * (d.coefficient * 10 ^ d.exponent.toNat : Nat), 1)
        else some (sign * d.coefficient, 10 ^ (-d.exponent).toNat)
  | _ => none

/-- Whether a double is a whole multiple of a whole one: exactly. -/
def isWholeMultiple (n divisor : Binary64) : Bool :=
  n.isWhole && divisor.wholePart != 0 && n.wholePart % divisor.wholePart == 0

/-- Whether a number is a whole multiple of another.  Both count as doubles, and beside a divisor
with a fraction as the decimals that their shortest texts denote. -/
def isMultiple (n divisor : Number) : Bool :=
  if divisor.toBinary64.isWhole then isWholeMultiple n.toBinary64 divisor.toBinary64
  else
    match decimalRatio? n.toBinary64, decimalRatio? divisor.toBinary64 with
    | some (a, b), some (c, d) => c != 0 && (a * d) % (c * b) == 0
    | _, _ => false

def allDistinct : List Json → Bool
  | [] => true
  | x :: rest => !rest.any (Json.sameSize x) && allDistinct rest

def checkRequired (names : List String) (members : List (String × Json)) :
    Except Violation Unit :=
  match names.find? fun name => !Table.contains name members with
  | some name => throw (.missing name)
  | none => pure ()

/-- Checks the demands that do not look at parts of the value with further constraints. -/
def checkPlain (formats : Bool) : Constraint → Json → Except Violation Unit
  | .never, v => throw (.forbidden v)
  | .types allowed, v =>
      if allowed.any fun t => t.admits v then pure () else throw (.wrongType v allowed)
  | .const expected, v => if expected.sameSize v then pure () else throw (.notConst expected)
  | .enum options, v =>
      if options.any fun o => o.sameSize v then pure () else throw (.notInEnum v options)
  | .bound c limit, .number n => if c.holds n limit then pure () else throw (.outOfBounds n c limit)
  | .multipleOf d, .number n => if isMultiple n d then pure () else throw (.notMultiple n d)
  | .least m limit, v =>
      match m.of v with
      | some n => if n < limit then throw (.tooFew v m limit) else pure ()
      | none => pure ()
  | .most m limit, v =>
      match m.of v with
      | some n => if limit < n then throw (.tooMany v m limit) else pure ()
      | none => pure ()
  | .required names, .object members => checkRequired names members
  | .dependentRequired entries, .object members =>
      entries.forM fun e =>
        if Table.contains e.1 members then checkRequired e.2 members else pure ()
  | .pattern p, .string s =>
      match p.isIn s with
      | some true => pure ()
      | some false => throw (.noMatch s p.text)
      | none => throw .noAnswer
  | .format name, .string s =>
      if formats && !Format.admits name s then throw (.wrongFormat (.string s) name) else pure ()
  | .uniqueItems, .array items =>
      if allDistinct items then pure () else throw (.repeatedItems (.array items))
  | _, _ => pure ()

/-! ## §2  The walk -/

/-- What holds of the number of items that match. -/
def countFits (n least : Nat) (most : Option Nat) : Bool := least ≤ n && most.all (n ≤ ·)

def passes {α : Type} : Except Violation α → Bool
  | .ok _ => true
  | .error _ => false

/-- Turns the verdicts on the alternatives into that of `anyOf`. -/
def anyVerdict (v : Json) (seen : Evaluated) : List Evaluated → Except Violation Evaluated
  | [] => throw (.noneOfAny v)
  | passed => pure (seen.mergeAll passed)

/-- Turns the verdicts on the alternatives into that of `oneOf`. -/
def oneVerdict (v : Json) (seen : Evaluated) : List Evaluated → Except Violation Evaluated
  | [] => throw (.noneOfOne v)
  | [passed] => pure (seen.merge passed)
  | _ => throw (.severalOfOne v)

/-- The members that are not yet dealt with and do not pass. -/
def leftMembers (passing : Json → Bool) (seen : Evaluated) (members : List (String × Json)) :
    List String :=
  (members.filter fun m => !seen.names.contains m.1 && !passing m.2).map (·.1)

/-- The items that are not yet dealt with and do not pass. -/
def leftItems (passing : Json → Bool) (seen : Evaluated) (items : List Json) : List Json :=
  (items.zipIdx.filter fun p => !seen.indexes.contains p.2 && !passing p.1).map (·.1)

/-- Up to how many declared members are looked for one by one, in the order of declaration. -/
def fewDeclared : Nat := 14

section
variable (formats : Bool) (follow : String → Json → Except Violation Evaluated)

mutual
/-- Checks a value against a constraint.  `follow` checks it against one that goes by a name. -/
def check : Constraint → Json → Evaluated → Except Violation Evaluated
  | .always, _, seen => pure seen
  | .reference name, v, seen => return seen.merge (← follow name v)
  | .all parts, v, seen => return seen.merge (← checkParts parts v {})
  | .properties declared, .object members, seen => do
      if declared.length ≤ fewDeclared then checkDeclared declared members
      else members.forM fun m => do let _ ← checkByName declared m
      return seen.addNames
        ((members.map (·.1)).filter fun name => Table.contains name declared)
  | .patternProperties patterns, .object members, seen => do
      let names ← checkPatterns patterns members
      return seen.addNames names
  | .additional declared patterns rest, .object members, seen => do
      members.forM fun m => do
        let declaredHere ← checkByName declared m
        let matched ← checkByPattern patterns m
        if declaredHere || matched then pure ()
        else
          let _ ← check rest m.2 {}
      return seen.addNames (members.map (·.1))
  | .closed declared patterns needed, .object members, seen => do
      members.forM fun m => do
        let declaredHere ← checkByName declared m
        let matched ← checkByPattern patterns m
        if declaredHere || matched then pure () else throw (.additionalProperty m.1)
      checkRequired needed members
      return seen.addNames (members.map (·.1))
  | .propertyNames names, .object members, seen => do
      members.forM fun m =>
        match names with
        | .never => throw (.forbidden (.object members))
        | _ => do let _ ← check names (.string m.1) {}
      return seen
  | .items skip each, .array items, seen => do
      (items.drop skip).forM fun x => do let _ ← check each x {}
      return seen.addIndexes (List.range items.length)
  | .prefixItems entries, .array items, seen => do
      checkPrefix entries items
      return seen.addIndexes (List.range (min entries.length items.length))
  | .contains matching least most, .array items, seen =>
      let hits := items.zipIdx.filter fun p => passes (check matching p.1 {})
      if countFits hits.length least most then pure (seen.addIndexes (hits.map (·.2)))
      else throw (.notContained (.array items))
  | .dependentSchemas entries, .object members, seen =>
      checkDependent entries members seen
  | .allOf parts, v, seen => return seen.merge (← checkParts parts v {})
  | .anyOf parts, v, seen => anyVerdict v seen (passing parts v)
  | .oneOf parts, v, seen => oneVerdict v seen (passing parts v)
  | .not source inner, v, seen =>
      if passes (check inner v {}) then throw (.excluded source v) else pure seen
  | .conditional test yes no, v, seen =>
      match check test v {} with
      | .ok tested => return (seen.merge tested).merge (← check yes v {})
      | .error _ => return seen.merge (← check no v {})
  | .aside inner, v, seen => do
      let _ ← check inner v {}
      return seen
  | .unevaluatedProperties rest, .object members, seen =>
      match leftMembers (fun v => passes (check rest v {})) seen members with
      | [] => pure (seen.addNames (members.map (·.1)))
      | names => throw (.unevaluatedProperties names)
  | .unevaluatedItems rest, .array items, seen =>
      match leftItems (fun v => passes (check rest v {})) seen items with
      | [] => pure (seen.addIndexes (List.range items.length))
      | left => throw (.unevaluatedItems left)
  | c, v, seen => do checkPlain formats c v; return seen

def checkParts : List Constraint → Json → Evaluated → Except Violation Evaluated
  | [], _, seen => pure seen
  | c :: rest, v, seen => do checkParts rest v (← check c v seen)

def passing : List Constraint → Json → List Evaluated
  | [], _ => []
  | c :: rest, v =>
      match check c v {} with
      | .ok seen => seen :: passing rest v
      | .error _ => passing rest v

def checkPrefix : List Constraint → List Json → Except Violation Unit
  | c :: rest, x :: xs => do
      let _ ← check c x {}
      checkPrefix rest xs
  | _, _ => pure ()

def checkDeclared : List (String × Constraint) → List (String × Json) → Except Violation Unit
  | [], _ => pure ()
  | (name, c) :: rest, members => do
      match Table.find? name members with
      | some v => do let _ ← check c v {}
      | none => pure ()
      checkDeclared rest members

def checkDependent : List (String × Constraint) → List (String × Json) → Evaluated →
    Except Violation Evaluated
  | [], _, seen => pure seen
  | (name, c) :: rest, members, seen => do
      if Table.contains name members then
        let own ← check c (.object members) {}
        checkDependent rest members (seen.merge own)
      else checkDependent rest members seen

/-- Checks the members that match patterns, pattern by pattern; their names are the answer. -/
def checkPatterns : List (Pattern.Script × Constraint) → List (String × Json) →
    Except Violation (List String)
  | [], _ => pure []
  | (p, c) :: rest, members => do
      let hits := members.filter fun m => p.isIn m.1 == some true
      hits.forM fun m => do let _ ← check c m.2 {}
      return hits.map (·.1) ++ (← checkPatterns rest members)

/-- Checks one member by its declaration.  The answer tells whether there is one. -/
def checkByName : List (String × Constraint) → String × Json → Except Violation Bool
  | [], _ => pure false
  | (name, c) :: rest, m =>
      if name = m.1 then do
        let _ ← check c m.2 {}
        return true
      else checkByName rest m

/-- Checks one member by all patterns that it matches.  The answer tells whether there is one. -/
def checkByPattern : List (Pattern.Script × Constraint) → String × Json → Except Violation Bool
  | [], _ => pure false
  | (p, c) :: rest, m =>
      if p.isIn m.1 = some true then do
        let _ ← check c m.2 {}
        let _ ← checkByPattern rest m
        return true
      else checkByPattern rest m
end

end

/-- Checks a value against the constraint that goes by a name, through at most so many names on
the way down.  A way that leads through more goes in a circle, and demands nothing. -/
def checkWithin (formats : Bool) (named : List (String × Constraint)) :
    Nat → String → Json → Except Violation Evaluated
  | 0, _, _ => pure {}
  | n + 1, name, v =>
      match Table.find? name named with
      | some c => check formats (checkWithin formats named n) c v {}
      | none => pure {}

/-- How many names can be passed on the way down through a value without a circle: between two
steps into the value, each at most once. -/
def namesOnTheWay (named : List (String × Constraint)) (v : Json) : Nat :=
  (v.depth + 1) * (named.length + 1)

/-- Fails with the first violation of a constraint that may refer to named ones. -/
def checkNamed (formats : Bool) (named : List (String × Constraint)) (c : Constraint) (v : Json) :
    Except Violation Unit := do
  let _ ← check formats (checkWithin formats named (namesOnTheWay named v)) c v {}

end ReplySchema.Validation
