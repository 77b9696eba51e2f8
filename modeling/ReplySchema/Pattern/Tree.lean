import ReplySchema.Unicode.Ranges

/-! # Patterns as they are written

The tree of a pattern keeps what its text says, before flags have been applied: which
class an escape names, which counts a repetition has, where flags are set.  What a tree
means is the business of `Pattern.Meaning`.
-/

set_option autoImplicit false

namespace ReplySchema.Pattern

/-- A flag that changes how a pattern is read or matched. -/
inductive Flag where
  | caseless
  | multiline
  | dotAll
  | swapGreed
  | unicode
  | carriageReturn
  | verbose
deriving DecidableEq

/-- The flags that are set and cleared at a place, in order. -/
abbrev FlagChanges := List (Flag × Bool)

/-- The classes with a letter of their own. -/
inductive LetterClass where
  | digit
  | space
  | word
deriving DecidableEq

inductive PropertyName where
  | single (name : String)
  | value (kind value : String)
deriving DecidableEq

inductive ClassOperation where
  | intersection
  | difference
  | symmetricDifference
deriving DecidableEq

/-- What stands between brackets. -/
inductive ClassTree where
  /-- A character; `octet` tells that it was written with two hexadecimal digits. -/
  | literal (c : Char) (octet : Bool)
  | range (low high : Char) (lowOctet highOctet : Bool)
  /-- A set that is named between `[:` and `:]`. -/
  | named (set : Unicode.Ranges) (negated : Bool)
  | property (name : PropertyName) (negated : Bool)
  | letter (class_ : LetterClass) (negated : Bool)
  | bracketed (negated : Bool) (inner : ClassTree)
  | union (items : List ClassTree)
  | operation (op : ClassOperation) (left right : ClassTree)

/-- A condition on a place that a pattern states. -/
inductive Assertion where
  | lineStart
  | lineEnd
  | textStart
  | textEnd
  | wordEdge
  | notWordEdge
  | wordStart
  | wordEnd
  | wordStartHalf
  | wordEndHalf
deriving DecidableEq

inductive Tree where
  | empty
  | flags (changes : FlagChanges)
  | literal (c : Char) (octet : Bool)
  | dot
  | assertion (kind : Assertion)
  | property (name : PropertyName) (negated : Bool)
  | letter (class_ : LetterClass) (negated : Bool)
  | bracketed (negated : Bool) (inner : ClassTree)
  | repetition (least : Nat) (most : Option Nat) (greedy : Bool) (inner : Tree)
  /-- A group that remembers what it matched. -/
  | capture (index : Nat) (inner : Tree)
  /-- A group that changes flags. -/
  | group (changes : FlagChanges) (inner : Tree)
  | alternation (branches : List Tree)
  | concat (items : List Tree)

/-! ## Nesting -/

mutual
def ClassTree.nesting : ClassTree → Nat
  | .bracketed _ inner => inner.nesting + 1
  | .union [] => 0
  | .union (c :: rest) => max c.nesting (nestingOfClasses rest) + 1
  | .operation _ left right => max left.nesting right.nesting + 1
  | _ => 0

def nestingOfClasses : List ClassTree → Nat
  | [] => 0
  | c :: rest => max c.nesting (nestingOfClasses rest)
end

mutual
def Tree.nesting : Tree → Nat
  | .bracketed _ inner => inner.nesting + 1
  | .repetition _ _ _ inner => inner.nesting + 1
  | .capture _ inner => inner.nesting + 1
  | .group _ inner => inner.nesting + 1
  | .alternation branches => nestingOfTrees branches + 1
  | .concat items => nestingOfTrees items + 1
  | _ => 0

def nestingOfTrees : List Tree → Nat
  | [] => 0
  | t :: rest => max t.nesting (nestingOfTrees rest)
end

def Tree.ofItems : List Tree → Tree
  | [] => .empty
  | [t] => t
  | items => .concat items

def Tree.ofBranches : List Tree → Tree
  | [] => .empty
  | [t] => t
  | branches => .alternation branches

def ClassTree.ofItems : List ClassTree → ClassTree
  | [c] => c
  | items => .union items

end ReplySchema.Pattern
