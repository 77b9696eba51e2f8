import ReplySchema.Pattern.Escape

/-! # Classes in brackets

Between brackets stand characters, ranges, escapes, named sets and further brackets;
`&&`, `--` and `~~` combine what stands on their two sides, from left to right.  A
bracket inside that looks like the start of a named set and is none is a plain bracket.

Functions take a fuel; as each step takes a character, the length of the rest is
enough.
-/

set_option autoImplicit false

namespace ReplySchema.Pattern

/-- The set of a name between `[:` and `:]`. -/
def posixSet? (name : String) : Option Unicode.Ranges :=
  match name with
  | "alnum" => some [(0x30, 0x39), (0x41, 0x5A), (0x61, 0x7A)]
  | "alpha" => some [(0x41, 0x5A), (0x61, 0x7A)]
  | "ascii" => some [(0x00, 0x7F)]
  | "blank" => some [(0x09, 0x09), (0x20, 0x20)]
  | "cntrl" => some [(0x00, 0x1F), (0x7F, 0x7F)]
  | "digit" => some [(0x30, 0x39)]
  | "graph" => some [(0x21, 0x7E)]
  | "lower" => some [(0x61, 0x7A)]
  | "print" => some [(0x20, 0x7E)]
  | "punct" => some [(0x21, 0x2F), (0x3A, 0x40), (0x5B, 0x60), (0x7B, 0x7E)]
  | "space" => some [(0x09, 0x0D), (0x20, 0x20)]
  | "upper" => some [(0x41, 0x5A)]
  | "word" => some [(0x30, 0x39), (0x41, 0x5A), (0x5F, 0x5F), (0x61, 0x7A)]
  | "xdigit" => some [(0x30, 0x39), (0x41, 0x46), (0x61, 0x66)]
  | _ => none

namespace Reading

/-- Reads a named set, if there is one; the cursor is on its bracket. -/
def named? : Reading (Option ClassTree) := do
  if ← bumpIf "[:" then
    let negated ← bumpIf "^"
    let c ← get
    let name := c.rest.takeWhile (· != ':')
    set (c.skip name.length)
    if ← bumpIf ":]" then
      return (posixSet? (String.ofList name)).map fun set => .named set negated
    else pure none
  else pure none

def classPrimitive : Reading Primitive := do
  let c ← char
  if c = '\\' then escape
  else
    bump
    return .literal c false

def asItem (p : Primitive) : Reading ClassTree :=
  match p.item? with
  | some item => pure item
  | none => malformed

/-- Whether a range starts here: a hyphen that no bracket closes and no second one follows. -/
def seesRange : Reading Bool := do
  let c ← get
  return (← char) == '-' && c.peek? != some ']' && c.peek? != some '-'

/-- Reads an item that is no bracket: a character, an escape or a range. -/
def rangeOrItem : Reading ClassTree := do
  let low ← classPrimitive
  bumpBlanks
  if ← seesRange then
    bumpPast
    let _ ← char
    match low, ← classPrimitive with
    | .literal a x, .literal b y => if a ≤ b then return .range a b x y else malformed
    | _, _ => malformed
  else asItem low

def leadingHyphens : Nat → Reading (List ClassTree)
  | 0 => pure []
  | n + 1 => do
      if (← char) = '-' then
        bumpPast
        return .literal '-' false :: (← leadingHyphens n)
      else pure []

/-- Reads the start of a class: a mark of negation, hyphens, or else a closing bracket that stands
for itself. -/
def openBracket : Reading (Bool × List ClassTree) := do
  bumpPast
  let negated := (← char) == '^'
  if negated then bumpPast
  let items ← leadingHyphens (← get).rest.length
  if items.isEmpty && (← char) == ']' then
    bumpPast
    let _ ← char
    return (negated, [.literal ']' false])
  else return (negated, items)

def operation? : Reading (Option ClassOperation) := do
  if ← bumpIf "&&" then return some .intersection
  else if ← bumpIf "--" then return some .difference
  else if ← bumpIf "~~" then return some .symmetricDifference
  else return none

/-- What stands to the left of an operation, and the operation. -/
abbrev Left := Option (ClassTree × ClassOperation)

def joinLeft (left : Left) (items : List ClassTree) : ClassTree :=
  match left with
  | none => .ofItems items
  | some (tree, op) => .operation op tree (.ofItems items)

/-- Reads a class up to its closing bracket, which it passes; `back` holds the items since the
last operation, the last one first. -/
def classBody : Nat → Left → List ClassTree → Reading ClassTree
  | 0, _, _ => malformed
  | n + 1, left, back => do
      bumpBlanks
      match ← char with
      | '[' =>
          match ← attempt named? with
          | some item => classBody n left (item :: back)
          | none =>
              let (negated, items) ← openBracket
              let inner ← classBody n none items.reverse
              classBody n left (.bracketed negated inner :: back)
      | ']' =>
          bump
          return joinLeft left back.reverse
      | _ =>
          match ← operation? with
          | some op => classBody n (some (joinLeft left back.reverse, op)) []
          | none =>
              let item ← rangeOrItem
              classBody n left (item :: back)

/-- Reads a class; the cursor is on its opening bracket. -/
def bracket : Reading Tree := do
  let (negated, items) ← openBracket
  return .bracketed negated (← classBody ((← get).rest.length + 1) none items.reverse)

end Reading

end ReplySchema.Pattern
