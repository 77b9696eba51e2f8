import ReplySchema.Number.Decimal
import ReplySchema.Table

/-! # JSON values

Values that replies carry and schemas are written in.  Members of an object keep
their order.  A number is an integer or a double, and the difference is kept:
`1` and `1.0` are two values.  A relation that looks at numbers by their size alone
is there beside it, because schema validation does so.
-/

set_option autoImplicit false

namespace ReplySchema

/-- A JSON number: an integer that was written as one, or a double. -/
inductive Number where
  | int (value : Int)
  | float (value : Binary64)
deriving DecidableEq, Repr

namespace Number

def toBinary64 : Number → Binary64
  | int n => Binary64.ofInt n
  | float x => x

/-- The number as `n * 2 ^ e`; nothing for a double that is not finite. -/
def toScaled : Number → Option (Int × Int)
  | int n => some (n, 0)
  | float x => x.toScaled

def isWhole : Number → Bool
  | int _ => true
  | float x => x.isWhole

def compare? (a b : Number) : Option Ordering := do
  return Binary64.compareScaled (← a.toScaled) (← b.toScaled)

/-- Equality of size: an integer equals the double of the same value. -/
def sameSize (a b : Number) : Bool := compare? a b == some .eq

/-- Equality that tells integers and doubles apart; the two zero doubles are equal. -/
def sameKind : Number → Number → Bool
  | int a, int b => a == b
  | float a, float b => a.numericEq b
  | _, _ => false

end Number

/-- A JSON value. -/
inductive Json where
  | null
  | bool (value : Bool)
  | number (value : Number)
  | string (text : String)
  | array (items : List Json)
  | object (members : List (String × Json))
deriving Inhabited

namespace Json

def int (n : Int) : Json := .number (.int n)

def nat (n : Nat) : Json := .number (.int n)

/-! ## §1  Looking into a value -/

def asString? : Json → Option String
  | string s => some s
  | _ => none

def asArray? : Json → Option (List Json)
  | array items => some items
  | _ => none

def asObject? : Json → Option (List (String × Json))
  | object members => some members
  | _ => none

def isObject : Json → Bool
  | object _ => true
  | _ => false

def isNull : Json → Bool
  | null => true
  | _ => false

/-- The member of an object; other values have no members. -/
def get? (key : String) : Json → Option Json
  | object members => Table.find? key members
  | _ => none

/-- The members of an object; other values have none. -/
def members : Json → List (String × Json)
  | object ms => ms
  | _ => []

/-- The JSON type of a value, in the words of JSON Schema. -/
def typeName : Json → String
  | null => "null"
  | bool _ => "boolean"
  | number _ => "number"
  | string _ => "string"
  | array _ => "array"
  | object _ => "object"

/-! ## §2  Equality

Two objects are equal when they have equally many members and each member of the one
has an equal one in the other: the order of members does not count. -/

mutual
def eqWith (numbers : Number → Number → Bool) : Json → Json → Bool
  | null, null => true
  | bool a, bool b => a == b
  | number a, number b => numbers a b
  | string a, string b => a == b
  | array a, array b => eqItems numbers a b
  | object a, object b => a.length == b.length && eqMembers numbers a b
  | _, _ => false

def eqItems (numbers : Number → Number → Bool) : List Json → List Json → Bool
  | [], [] => true
  | x :: xs, y :: ys => eqWith numbers x y && eqItems numbers xs ys
  | _, _ => false

/-- Whether each member has an equal one of the same name in the other object. -/
def eqMembers (numbers : Number → Number → Bool) :
    List (String × Json) → List (String × Json) → Bool
  | [], _ => true
  | (k, x) :: rest, other =>
      (match Table.find? k other with
        | some y => eqWith numbers x y
        | none => false) && eqMembers numbers rest other
end

/-- Equality of values that tells `1` and `1.0` apart. -/
def same (a b : Json) : Bool := eqWith Number.sameKind a b

/-- Equality of values that compares numbers by size. -/
def sameSize (a b : Json) : Bool := eqWith Number.sameSize a b

/-! ## §3  Nesting -/

mutual
/-- How deep arrays and objects are nested in a value. -/
def depth : Json → Nat
  | array items => depthOfItems items + 1
  | object members => depthOfMembers members + 1
  | _ => 0

def depthOfItems : List Json → Nat
  | [] => 0
  | x :: rest => max (depth x) (depthOfItems rest)

def depthOfMembers : List (String × Json) → Nat
  | [] => 0
  | (_, x) :: rest => max (depth x) (depthOfMembers rest)
end

/-! ## §4  Repeated keys -/

mutual
/-- Gives every object distinct keys: a repeated key keeps its first place and its last value. -/
def settle : Json → Json
  | array items => array (settleItems items)
  | object members => object (Table.ofList (settleMembers members))
  | v => v

def settleItems : List Json → List Json
  | [] => []
  | x :: rest => settle x :: settleItems rest

def settleMembers : List (String × Json) → List (String × Json)
  | [] => []
  | (k, x) :: rest => (k, settle x) :: settleMembers rest
end

mutual
def hasDistinctKeys : Json → Prop
  | array items => itemsHaveDistinctKeys items
  | object members => (Table.keys members).Nodup ∧ membersHaveDistinctKeys members
  | _ => True

def itemsHaveDistinctKeys : List Json → Prop
  | [] => True
  | x :: rest => hasDistinctKeys x ∧ itemsHaveDistinctKeys rest

def membersHaveDistinctKeys : List (String × Json) → Prop
  | [] => True
  | (_, x) :: rest => hasDistinctKeys x ∧ membersHaveDistinctKeys rest
end

end Json

end ReplySchema
