import ReplySchema.Pattern.Backtracking.Node
import ReplySchema.Pattern.Size

/-! # Programs

A pattern that looks around is made into a program of a machine that tries one way and
goes back to the last fork when it fails.  Parts that a plain pattern can say are one
instruction.  Of a sequence, the parts in front that take always as many characters are
one such instruction, and so are those behind the last hard part.
-/

set_option autoImplicit false

namespace ReplySchema.Pattern.Backtracking

-- Powers are those of the core library, whatever else is imported.
attribute [local instance (high)] instPowNat

/-- An instruction; ways lead to the numbers of instructions. -/
inductive Instruction where
  | done
  | anyChar (newline crlf : Bool)
  | chars (cs : List Char)
  | edge (kind : Edge)
  /-- Goes the first way, and the second one if that fails. -/
  | fork (first second : Nat)
  | jump (target : Nat)
  /-- Notes the place in a slot. -/
  | save (slot : Nat)
  | clear (slot : Nat)
  /-- Goes back to the place in a slot. -/
  | restore (slot : Nat)
  /-- Counts a round in a slot, and leaves for `next` when there are enough. -/
  | round (least : Nat) (most : Nat) (next slot : Nat) (greedy : Bool)
  /-- The same without a greatest count; a round that took nothing is the last one, which the place
  in `check` tells. -/
  | roundOrNothing (least next slot check : Nat) (greedy : Bool)
  /-- Goes so many characters back. -/
  | back (count : Nat)
  /-- Matches a plain pattern that ends here. -/
  | plainBehind (pattern : Pattern)
  /-- What stands in a look that must not match has matched. -/
  | failLook
  | backReference (group : Nat) (caseless : Bool)
  | hasMatched (group : Nat)
  | beginAtomic
  | endAtomic
  /-- Matches a plain pattern; its groups are numbered from `first` on, before `behind`. -/
  | plain (pattern : Pattern) (first behind : Nat)
  | searchStart
  | lineBreak

/-- A program with the number of its slots. -/
structure Program where
  code : Array Instruction
  slots : Nat

abbrev Making := StateT Program Option

namespace Making

/-- Gives up: there is no program. -/
def fail {α : Type} : Making α := fun _ => none

def here : Making Nat := return (← get).code.size

def emit (i : Instruction) : Making Unit := modify fun p => { p with code := p.code.push i }

def replace (n : Nat) (i : Instruction) : Making Unit :=
  modify fun p => { p with code := p.code.setIfInBounds n i }

def newSlot : Making Nat := do
  let n := (← get).slots
  modify fun p => { p with slots := n + 1 }
  return n

/-! ## §1  Plain parts -/

/-- Adds an instruction for nodes in a row that are not hard. -/
def plainRow (nodes : List Node) : Making Unit :=
  match nodes with
  | [] => pure ()
  | first :: _ =>
      if nodes.all fun n => n.tree.isLiteral then
        emit (.chars (nodes.flatMap fun n => n.tree.literalChars))
      else
        let text := nodes.flatMap fun n => n.tree.text 1
        match Pattern.read? (String.ofList text) with
        | some p => emit (.plain p first.firstGroup ((nodes.getLast?.map Node.endGroup).getD 0))
        | none => fail

/-- The number of nodes at the front that take always as many characters and are not hard. -/
def frontLength (nodes : List Node) : Nat :=
  (nodes.takeWhile fun n => n.fixed && !n.hard).length

/-- The number of nodes at the end that need not be gone through one by one.  Where something hard
follows, only those count that take always as many characters. -/
def tailLength (hard : Bool) (nodes : List Node) : Nat :=
  (nodes.reverse.takeWhile fun n => !n.hard && (!hard || n.fixed)).length

def branchesOf? (n : Node) : Option (List Node) :=
  match n.tree with
  | .alternation _ => if n.fixed then none else some n.children
  | _ => none

/-! ## §2  Nodes -/

/-- Emits branches; each but the last one starts with a fork to the next one and ends with a jump
behind all. -/
def branches (emitBranch : Node → Making Unit) : List Node → Making Unit
  | [] => pure ()
  | [last] => emitBranch last
  | b :: rest => do
      let start ← here
      emit (.fork (start + 1) 0)
      emitBranch b
      let stop ← here
      emit (.jump 0)
      replace start (.fork (start + 1) (← here))
      branches emitBranch rest
      replace stop (.jump (← here))

/-- Emits rounds of an inner part that takes at least `size` characters. -/
def rounds (inner : Making Unit) (size least : Nat) (most : Option Nat) (greedy : Bool) :
    Making Unit := do
  let start ← here
  let way (next : Nat) : Instruction :=
    if greedy then .fork (start + 1) next else .fork next (start + 1)
  match least, most with
  | 0, some 1 =>
      emit (way 0)
      inner
      replace start (way (← here))
  | _, some m =>
      let slot ← newSlot
      emit (.clear slot)
      emit .done
      inner
      emit (.jump (start + 1))
      replace (start + 1) (.round least m (← here) slot greedy)
  | _, none =>
      if size = 0 then
        let slot ← newSlot
        let check ← newSlot
        emit (.clear slot)
        emit .done
        inner
        emit (.jump (start + 1))
        replace (start + 1) (.roundOrNothing least (← here) slot check greedy)
      else if least = 0 then
        emit (way 0)
        inner
        emit (.jump start)
        replace start (way (← here))
      else if least = 1 then
        inner
        let next := (← here) + 1
        emit (if greedy then .fork start next else .fork next start)
      else
        let slot ← newSlot
        emit (.clear slot)
        emit .done
        inner
        emit (.jump (start + 1))
        replace (start + 1) (.round least (2 ^ (64 : Nat)) (← here) slot greedy)

def lookAt (inner : Making Unit) : Making Unit := do
  let slot ← newSlot
  emit (.save slot)
  inner
  emit (.restore slot)

/-- Emits a look at what is given, which must not match. -/
def lookAway (inner : Making Unit) : Making Unit := do
  let start ← here
  emit (.fork (start + 1) 0)
  inner
  emit .failLook
  replace start (.fork (start + 1) (← here))

/-- Goes back as far as a node reaches before it is matched; a plain node of no fixed size is
matched backwards. -/
def behind (visit : Node → Making Unit) (n : Node) : Making Unit :=
  if n.fixed then do
    emit (.back n.size)
    visit n
  else if n.hard then fail
  else
    match Pattern.read? (String.ofList (n.tree.text 0)) with
    | some p => emit (.plainBehind p)
    | none => fail

def look (visit : Node → Making Unit) (kind : Look) (inner : Node) : Making Unit :=
  match kind, branchesOf? inner with
  | .ahead, _ => lookAt (visit inner)
  | .notAhead, _ => lookAway (visit inner)
  | .behind, some bs => branches (fun b => lookAt (behind visit b)) bs
  | .behind, none => lookAt (behind visit inner)
  | .notBehind, some bs => bs.forM fun b => lookAway (behind visit b)
  | .notBehind, none => lookAway (behind visit inner)

def conditional (test yes no : Making Unit) : Making Unit := do
  emit .beginAtomic
  let start ← here
  emit (.fork (start + 1) 0)
  test
  emit .endAtomic
  yes
  let stop ← here
  emit (.jump 0)
  replace start (.fork (start + 1) (← here))
  no
  replace stop (.jump (← here))

/-- Emits a node.  `hard` tells that something hard follows, so that all its matches may be needed.
`n` bounds the nesting. -/
def visit : Nat → Bool → Node → Making Unit
  | 0, _, _ => fail
  | n + 1, hard, node => do
      let children := node.children
      if !hard && !node.hard then plainRow [node]
      else
        match node.tree, children with
        | .empty, _ => pure ()
        | .literal c caseless, _ => if caseless then plainRow [node] else emit (.chars [c])
        | .any newline crlf, _ => emit (.anyChar newline crlf)
        | .plain _ _ _, _ => plainRow [node]
        | .edge kind, _ => emit (.edge kind)
        | .keepOut, _ => emit (.save 0)
        | .searchStart, _ => emit .searchStart
        | .lineBreak, _ => emit .lineBreak
        | .backReference g caseless, _ => emit (.backReference g caseless)
        | .hasMatched g, _ => emit (.hasMatched g)
        | .concat _, _ =>
            let front := frontLength children
            let tail := tailLength hard (children.drop front)
            plainRow (children.take front)
            ((children.drop front).take (children.length - front - tail)).forM (visit n true)
            plainRow (children.drop (children.length - tail))
        | .alternation _, _ => branches (visit n hard) children
        | .group _, [inner] =>
            emit (.save (2 * node.firstGroup))
            visit n hard inner
            emit (.save (2 * node.firstGroup + 1))
        | .repeated _ least most greedy, [inner] =>
            rounds (visit n (hard || (node.hard && !(least == 0 && most == some 1))) inner)
              inner.size least most greedy
        | .look kind _, [inner] => look (visit n false) kind inner
        | .atomic _, [inner] =>
            emit .beginAtomic
            visit n false inner
            emit .endAtomic
        | .conditional _ _ _, [test, yes, no] =>
            conditional (visit n hard test) (visit n hard yes) (visit n hard no)
        | _, _ => fail

/-- Emits the search for the place where the rest of the program matches. -/
def search : Making Unit := do
  let start ← here
  emit (.fork (start + 3) (start + 1))
  emit (.anyChar true false)
  emit (.jump start)

end Making

end ReplySchema.Pattern.Backtracking
