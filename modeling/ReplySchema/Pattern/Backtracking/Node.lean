import ReplySchema.Pattern.Backtracking.Reader

/-! # What is known of the parts of a pattern

For each part of a tree: the groups inside it, how many characters it takes at least,
whether it takes always as many, and whether it is *hard*, which is to say that a plain
pattern cannot say it.  A group that a reference leads to is hard, because its other
matches may be needed later.
-/

set_option autoImplicit false

namespace ReplySchema.Pattern.Backtracking

-- Sums are those of the core library, whatever else is imported.
attribute [local instance (high)] Zero.ofOfNat0

/-- A part of a tree with what is known of it. -/
inductive Node where
  | mk (tree : Tree) (firstGroup endGroup size : Nat) (fixed hard : Bool) (children : List Node)

namespace Node

def tree : Node → Tree
  | mk t _ _ _ _ _ _ => t

def firstGroup : Node → Nat
  | mk _ g _ _ _ _ _ => g

/-- The number behind that of the last group inside. -/
def endGroup : Node → Nat
  | mk _ _ g _ _ _ _ => g

def size : Node → Nat
  | mk _ _ _ n _ _ _ => n

/-- Whether the number of characters is always the same. -/
def fixed : Node → Bool
  | mk _ _ _ _ b _ _ => b

def hard : Node → Bool
  | mk _ _ _ _ _ b _ => b

def children : Node → List Node
  | mk _ _ _ _ _ _ cs => cs

/-- Whether all nodes take the same number of characters. -/
def sameSize (nodes : List Node) : Bool :=
  nodes.all fun n => n.fixed && some n.size == nodes.head?.map size

def leastSize : List Node → Nat
  | [] => 0
  | [n] => n.size
  | n :: rest => min n.size (leastSize rest)

def conditionalFixed : List Node → Bool
  | [test, yes, no] =>
      test.fixed && yes.fixed && no.fixed && test.size + yes.size == no.size
  | _ => false

def conditionalSize : List Node → Nat
  | test :: branches => test.size + leastSize branches
  | [] => 0

def ofParts (referenced : List Nat) (tree : Tree) (first : Nat) (children : List Node) : Node :=
  let behind := match tree, children.getLast? with
    | .group _, none => first + 1
    | _, some c => c.endGroup
    | _, none => first
  let hard := children.any Node.hard
  let size := (children.map Node.size).sum
  let fixed := children.all Node.fixed
  match tree with
  | .empty => mk tree first behind 0 true false children
  | .any _ _ => mk tree first behind 1 true false children
  | .literal _ _ => mk tree first behind 1 true false children
  | .edge kind => mk tree first behind 0 true (Tree.isWordEdge kind) children
  | .concat _ => mk tree first behind size fixed hard children
  | .alternation _ => mk tree first behind (leastSize children) (sameSize children) hard children
  | .group _ => mk tree first behind size fixed (hard || referenced.contains first) children
  | .look _ _ => mk tree first behind 0 true true children
  | .repeated _ least most _ =>
      mk tree first behind (least * size) (fixed && most == some least) hard children
  | .plain _ n _ => mk tree first behind n true false children
  | .backReference _ _ => mk tree first behind 0 false true children
  | .atomic _ => mk tree first behind size fixed true children
  | .keepOut => mk tree first behind 0 true true children
  | .searchStart => mk tree first behind 0 true true children
  | .lineBreak => mk tree first behind 1 false true children
  | .hasMatched _ => mk tree first behind 0 true true children
  | .conditional _ _ _ =>
      mk tree first behind (conditionalSize children) (conditionalFixed children) true children

mutual
def ofTree (referenced : List Nat) (first : Nat) (tree : Tree) : Node :=
  match tree with
  | .concat items => ofParts referenced (.concat items) first (ofTrees referenced first items)
  | .alternation branches =>
      ofParts referenced (.alternation branches) first (ofTrees referenced first branches)
  | .group inner => ofParts referenced (.group inner) first [ofTree referenced (first + 1) inner]
  | .look kind inner =>
      ofParts referenced (.look kind inner) first [ofTree referenced first inner]
  | .repeated inner least most greedy =>
      ofParts referenced (.repeated inner least most greedy) first [ofTree referenced first inner]
  | .atomic inner => ofParts referenced (.atomic inner) first [ofTree referenced first inner]
  | .conditional test yes no =>
      let test' := ofTree referenced first test
      let yes' := ofTree referenced test'.endGroup yes
      let no' := ofTree referenced yes'.endGroup no
      ofParts referenced (.conditional test yes no) first [test', yes', no']
  | leaf => ofParts referenced leaf first []

def ofTrees (referenced : List Nat) (first : Nat) : List Tree → List Node
  | [] => []
  | t :: rest =>
      let node := ofTree referenced first t
      node :: ofTrees referenced node.endGroup rest
end

end Node

end ReplySchema.Pattern.Backtracking
