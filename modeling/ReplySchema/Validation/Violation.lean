import ReplySchema.Json.Written
import ReplySchema.Text.Blank

/-! # Violations

What a value can have against a schema, and the sentence that tells it.  A violation
holds the value that fails, which may be deep inside the value that was validated, and
what was demanded of it.
-/

set_option autoImplicit false

namespace ReplySchema.Validation

/-- A JSON type as schemas name it.  Every integer is a number. -/
inductive TypeName where
  | array
  | boolean
  | integer
  | null
  | number
  | object
  | string
deriving DecidableEq, Repr

namespace TypeName

def all : List TypeName := [array, boolean, integer, null, number, object, string]

def text : TypeName → String
  | array => "array"
  | boolean => "boolean"
  | integer => "integer"
  | null => "null"
  | number => "number"
  | object => "object"
  | string => "string"

def read? (text : String) : Option TypeName := all.find? fun t => t.text == text

/-- Whether a value has the type; a double without fraction is an integer. -/
def admits : TypeName → Json → Bool
  | array, .array _ => true
  | boolean, .bool _ => true
  | integer, .number n => n.isWhole
  | null, .null => true
  | number, .number _ => true
  | object, .object _ => true
  | string, .string _ => true
  | _, _ => false

end TypeName

/-- How a number may lie to a limit. -/
inductive Comparison where
  | atLeast
  | atMost
  | above
  | below
deriving DecidableEq, Repr

namespace Comparison

def holds (c : Comparison) (n limit : Number) : Bool :=
  match c, n.compare? limit with
  | atLeast, some o => o != .lt
  | atMost, some o => o != .gt
  | above, some o => o == .gt
  | below, some o => o == .lt
  | _, none => true

def failure : Comparison → String
  | atLeast => "less than the minimum of"
  | atMost => "greater than the maximum of"
  | above => "less than or equal to the minimum of"
  | below => "greater than or equal to the maximum of"

end Comparison

/-- What is counted in a value. -/
inductive Measure where
  | characters
  | items
  | properties
deriving DecidableEq, Repr

namespace Measure

def of : Measure → Json → Option Nat
  | characters, .string s => some s.length
  | items, .array xs => some xs.length
  | properties, .object ms => some ms.length
  | _, _ => none

def noun : Measure → Nat → String
  | characters, 1 => "character"
  | characters, _ => "characters"
  | items, 1 => "item"
  | items, _ => "items"
  | properties, 1 => "property"
  | properties, _ => "properties"

def tooFew : Measure → String
  | characters => "is shorter than"
  | _ => "has less than"

def tooMany : Measure → String
  | characters => "is longer than"
  | _ => "has more than"

end Measure

/-- What a value has against a schema. -/
inductive Violation where
  | wrongType (value : Json) (allowed : List TypeName)
  | notConst (expected : Json)
  | notInEnum (value : Json) (options : List Json)
  | outOfBounds (value : Number) (comparison : Comparison) (limit : Number)
  | notMultiple (value : Number) (divisor : Number)
  | tooFew (value : Json) (measure : Measure) (limit : Nat)
  | tooMany (value : Json) (measure : Measure) (limit : Nat)
  | missing (name : String)
  | noMatch (value : String) (pattern : String)
  /-- The search for a pattern was given up. -/
  | noAnswer
  | wrongFormat (value : Json) (format : String)
  | repeatedItems (value : Json)
  | additionalProperty (name : String)
  | forbidden (value : Json)
  | notContained (value : Json)
  | excluded (schema value : Json)
  | noneOfAny (value : Json)
  | noneOfOne (value : Json)
  | severalOfOne (value : Json)
  | unevaluatedProperties (names : List String)
  | unevaluatedItems (items : List Json)

namespace Violation

def quoted (words : List String) : String :=
  Text.joinWith ", " (words.map fun w => "'" ++ w ++ "'")

def wereUnexpected {α : Type} : List α → String
  | [_] => " was unexpected)"
  | _ => " were unexpected)"

/-- The options of an enumeration; of four and more only two are named. -/
def optionsText : List Json → String
  | [] => ""
  | [a] => a.text
  | [a, b] => a.text ++ " or " ++ b.text
  | [a, b, c] => a.text ++ ", " ++ b.text ++ " or " ++ c.text
  | a :: b :: rest =>
      a.text ++ ", " ++ b.text ++ " or " ++ Decimal.ofNat rest.length ++ " other candidates"

def typesText : List TypeName → String
  | [t] => "type \"" ++ t.text ++ "\""
  | ts => "types " ++ Text.joinWith ", " (ts.map fun t => "\"" ++ t.text ++ "\"")

def message : Violation → String
  | wrongType v allowed => v.text ++ " is not of " ++ typesText allowed
  | notConst expected => expected.text ++ " was expected"
  | notInEnum v options => v.text ++ " is not one of " ++ optionsText options
  | outOfBounds n c limit =>
      (Json.number n).text ++ " is " ++ c.failure ++ " " ++ (Json.number limit).text
  | notMultiple n d =>
      (Json.number n).text ++ " is not a multiple of " ++ Decimal.plain d.toBinary64
  | tooFew v m limit =>
      v.text ++ " " ++ m.tooFew ++ " " ++ Decimal.ofNat limit ++ " " ++ m.noun limit
  | tooMany v m limit =>
      v.text ++ " " ++ m.tooMany ++ " " ++ Decimal.ofNat limit ++ " " ++ m.noun limit
  | missing name => (Json.string name).text ++ " is a required property"
  | noMatch s pattern => (Json.string s).text ++ " does not match \"" ++ pattern ++ "\""
  | noAnswer => "Error executing regex: Max limit for backtracking count exceeded"
  | wrongFormat v format => v.text ++ " is not a \"" ++ format ++ "\""
  | repeatedItems v => v.text ++ " has non-unique elements"
  | additionalProperty name =>
      "Additional properties are not allowed (" ++ quoted [name] ++ " was unexpected)"
  | forbidden v => "False schema does not allow " ++ v.text
  | notContained v => "None of " ++ v.text ++ " are valid under the given schema"
  | excluded schema v => schema.text ++ " is not allowed for " ++ v.text
  | noneOfAny v => v.text ++ " is not valid under any of the schemas listed in the 'anyOf' keyword"
  | noneOfOne v => v.text ++ " is not valid under any of the schemas listed in the 'oneOf' keyword"
  | severalOfOne v =>
      v.text ++ " is valid under more than one of the schemas listed in the 'oneOf' keyword"
  | unevaluatedProperties names =>
      "Unevaluated properties are not allowed (" ++ quoted names ++ wereUnexpected names
  | unevaluatedItems items =>
      "Unevaluated items are not allowed (" ++ quoted (items.map Json.text) ++
        wereUnexpected items

end Violation

end ReplySchema.Validation
