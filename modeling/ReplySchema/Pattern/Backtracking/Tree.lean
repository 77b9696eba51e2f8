import ReplySchema.Pattern.Basic

/-! # Patterns that look around and back

Beyond what a plain pattern can say, these patterns look ahead and behind, repeat what a
group matched, give up alternatives, and choose by a condition.  Their trees keep parts
that need none of this as text, so that plain patterns can be made of them.
-/

set_option autoImplicit false

namespace ReplySchema.Pattern.Backtracking

/-- A look around, which takes no character itself. -/
inductive Look where
  | ahead
  | notAhead
  | behind
  | notBehind
deriving DecidableEq

inductive Tree where
  | empty
  /-- Any character; a line feed only if `newline`, and with `crlf` no carriage return. -/
  | any (newline crlf : Bool)
  | literal (c : Char) (caseless : Bool)
  | edge (kind : Edge)
  | concat (items : List Tree)
  | alternation (branches : List Tree)
  /-- A group that remembers what it matched. -/
  | group (inner : Tree)
  | look (kind : Look) (inner : Tree)
  | repeated (inner : Tree) (least : Nat) (most : Option Nat) (greedy : Bool)
  /-- A plain pattern of a text, which takes so many characters. -/
  | plain (text : String) (size : Nat) (caseless : Bool)
  /-- What a group matched, once more. -/
  | backReference (group : Nat) (caseless : Bool)
  /-- Only the preferred match. -/
  | atomic (inner : Tree)
  /-- The match starts here. -/
  | keepOut
  /-- The place where the search started. -/
  | searchStart
  /-- The end of a line, whatever characters it is made of. -/
  | lineBreak
  /-- Whether a group has matched. -/
  | hasMatched (group : Nat)
  | conditional (test yes no : Tree)

namespace Tree

def isEmpty : Tree → Bool
  | empty => true
  | _ => false

def isRepeatable : Tree → Bool
  | look _ _ | empty | edge _ => false
  | _ => true

/-- Whether a condition on a place needs characters of words. -/
def isWordEdge : Edge → Bool
  | .textStart | .textEnd | .lineStart _ | .lineEnd _ => false
  | _ => true

def isLiteral : Tree → Bool
  | literal _ caseless => !caseless
  | concat items => allLiteral items
  | _ => false
where
  /-- Whether all trees are such. -/
  allLiteral : List Tree → Bool
    | [] => true
    | t :: rest => isLiteral t && allLiteral rest

def literalChars : Tree → List Char
  | literal c _ => [c]
  | concat items => charsOfAll items
  | _ => []
where
  /-- The characters of trees. -/
  charsOfAll : List Tree → List Char
    | [] => []
    | t :: rest => literalChars t ++ charsOfAll rest

/-! ## The text of plain trees -/

/-- The characters that have a meaning in plain patterns. -/
def metaChars : List Char := "\\.+*?()|[]\x7b\x7d^$#".toList

def quoted (c : Char) : List Char := if metaChars.contains c then ['\\', c] else [c]

def flagged (flags : String) (inner : List Char) : List Char :=
  "(?".toList ++ flags.toList ++ ':' :: inner ++ [')']

/-- A text in a group that does not remember, if need be. -/
def bracketed (needed : Bool) (inner : List Char) : List Char :=
  if needed then flagged "" inner else inner

/-- The text of a condition that needs no words. -/
def edgeText : Edge → List Char
  | .textStart => ['^']
  | .textEnd => ['$']
  | .lineStart false => flagged "m" ['^']
  | .lineEnd false => flagged "m" ['$']
  | .lineStart true => flagged "mR" ['^']
  | .lineEnd true => flagged "mR" ['$']
  | _ => []

def countsText (least : Nat) (most : Option Nat) : List Char :=
  match least, most with
  | 0, some 1 => ['?']
  | 0, none => ['*']
  | 1, none => ['+']
  | n, some m =>
      '\x7b' :: Decimal.digits n ++ (if n = m then [] else ',' :: Decimal.digits m) ++ ['\x7d']
  | n, none => '\x7b' :: Decimal.digits n ++ [',', '\x7d']

mutual
/-- The text of a tree that a plain pattern can say.  `tightness` tells how tightly the text around
it binds: as branches, as a sequence, as an item of one, or as what is repeated. -/
def text (tightness : Nat) : Tree → List Char
  | empty => []
  | any true _ => flagged "s" ['.']
  | any false false => ['.']
  | any false true => flagged "R" ['.']
  | literal c caseless => if caseless then flagged "i" (quoted c) else quoted c
  | edge kind => edgeText kind
  | concat items => bracketed (1 < tightness) (textOfAll items)
  | alternation branches => bracketed (0 < tightness) (textOfBranches branches)
  | group inner => '(' :: text 0 inner ++ [')']
  | repeated inner least most greedy =>
      bracketed (2 < tightness)
        (text 3 inner ++ countsText least most ++ if greedy then [] else ['?'])
  | plain inner _ caseless => if caseless then flagged "i" inner.toList else inner.toList
  | _ => []

def textOfAll : List Tree → List Char
  | [] => []
  | t :: rest => text 2 t ++ textOfAll rest

def textOfBranches : List Tree → List Char
  | [] => []
  | [t] => text 1 t
  | t :: rest => text 1 t ++ '|' :: textOfBranches rest
end

end Tree

end ReplySchema.Pattern.Backtracking
