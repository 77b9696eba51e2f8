import ReplySchema.Pattern.Basic
import ReplySchema.Pattern.Tree
import ReplySchema.Unicode.Property

/-! # The meaning of trees

A tree becomes a pattern under flags.  A flag that is set inside a group holds to the
end of the group, over all branches that follow; flags of a group hold inside it.

Where the flag for Unicode is cleared, only ASCII is left: classes know ASCII alone, and
what would match part of a character, such as a complement or a dot, has no meaning.
-/

set_option autoImplicit false

namespace ReplySchema.Pattern

open Unicode (Ranges)

structure Flags where
  caseless : Bool := false
  multiline : Bool := false
  dotAll : Bool := false
  swapGreed : Bool := false
  unicode : Bool := true
  carriageReturn : Bool := false

namespace Flags

/-- Sets or clears a flag.  Blanks and comments are gone from a tree, so their flag says nothing. -/
def change (f : Flags) : Flag × Bool → Flags
  | (.caseless, on) => { f with caseless := on }
  | (.multiline, on) => { f with multiline := on }
  | (.dotAll, on) => { f with dotAll := on }
  | (.swapGreed, on) => { f with swapGreed := on }
  | (.unicode, on) => { f with unicode := on }
  | (.carriageReturn, on) => { f with carriageReturn := on }
  | (.verbose, _) => f

def changeAll (f : Flags) (changes : FlagChanges) : Flags := changes.foldl change f

def variants (f : Flags) (s : CharSet) : CharSet :=
  if !f.caseless then s
  else if f.unicode then Unicode.caseVariants s
  else CharSet.asciiVariants s

/-- The set or its complement; without Unicode there is no complement. -/
def negate? (f : Flags) (negated : Bool) (s : CharSet) : Option CharSet :=
  if !negated then some s else if f.unicode then some (Ranges.compl s) else none

end Flags

/-! ## §1  Classes -/

def PropertyName.set? : PropertyName → Option CharSet
  | .single name => Unicode.property? name
  | .value kind v => Unicode.propertyValue? kind v

def LetterClass.set (f : Flags) : LetterClass → CharSet
  | digit => if f.unicode then CharSet.digit else CharSet.asciiDigit
  | space => if f.unicode then CharSet.space else CharSet.asciiSpace
  | word => if f.unicode then CharSet.word else CharSet.asciiWord

def propertySet? (f : Flags) (name : PropertyName) (negated : Bool) : Option CharSet := do
  let s ← name.set?
  if f.unicode then f.negate? negated (f.variants s) else none

def ClassOperation.apply : ClassOperation → CharSet → CharSet → CharSet
  | intersection => Ranges.inter
  | difference => Ranges.diff
  | symmetricDifference => Ranges.symmDiff

def mayStand (f : Flags) (c : Char) : Bool := f.unicode || c.toNat < 0x80

mutual
/-- The set of a class.  Case variants are added inside of a complement, and on both sides of an
operation. -/
def ClassTree.set? (f : Flags) : ClassTree → Option CharSet
  | .literal c _ => if mayStand f c then some (CharSet.single c) else none
  | .range low high _ _ =>
      if mayStand f low && mayStand f high then some [(low.toNat, high.toNat)] else none
  | .named set negated => f.negate? negated (f.variants set)
  | .property name negated => propertySet? f name negated
  | .letter class_ negated => f.negate? negated (class_.set f)
  | .bracketed negated inner => do f.negate? negated (f.variants (← inner.set? f))
  | .union items => return Ranges.unionAll (← setsOf? f items)
  | .operation op left right => do
      return op.apply (f.variants (← left.set? f)) (f.variants (← right.set? f))

def setsOf? (f : Flags) : List ClassTree → Option (List CharSet)
  | [] => some []
  | c :: rest => do return (← c.set? f) :: (← setsOf? f rest)
end

/-! ## §2  Simplification -/

def takesNothing : Pattern → Bool
  | .empty => true
  | .char _ => false
  | .seq a b => takesNothing a && takesNothing b
  | .alt a b => takesNothing a && takesNothing b
  | .repeated a _ most _ => takesNothing a || most == some 0
  | .group _ a => takesNothing a
  | .edge _ => true

/-- A repetition.  What takes nothing is repeated at most once. -/
def ofRounds (a : Pattern) (least : Nat) (most : Option Nat) (greedy : Bool) : Pattern :=
  let (least, most) :=
    if takesNothing a then (min least 1, some ((most.map (min · 1)).getD 1)) else (least, most)
  match least, most with
  | 0, some 0 => .empty
  | 1, some 1 => a
  | _, _ => .repeated a least most greedy

def ofSequence : List Pattern → Pattern
  | [] => .empty
  | [a] => a
  | a :: rest => .seq a (ofSequence rest)

def charSets? : List Pattern → Option (List CharSet)
  | [] => some []
  | .char set :: rest => (charSets? rest).map (set :: ·)
  | _ => none

def ofChoices : List Pattern → Pattern
  | [] => .char []
  | [a] => a
  | a :: rest => .alt a (ofChoices rest)

def ofBranches (branches : List Pattern) : Pattern :=
  match charSets? branches with
  | some sets => .char (Ranges.unionAll sets)
  | none => ofChoices branches

/-! ## §3  Trees -/

def Assertion.edge (f : Flags) : Assertion → Edge
  | lineStart => if f.multiline then .lineStart f.carriageReturn else .textStart
  | lineEnd => if f.multiline then .lineEnd f.carriageReturn else .textEnd
  | textStart => .textStart
  | textEnd => .textEnd
  | wordEdge => .word (!f.unicode)
  | notWordEdge => .notWord (!f.unicode)
  | wordStart => .wordStart (!f.unicode)
  | wordEnd => .wordEnd (!f.unicode)
  | wordStartHalf => .wordStartHalf (!f.unicode)
  | wordEndHalf => .wordEndHalf (!f.unicode)

def dotSet? (f : Flags) : Option CharSet :=
  if !f.unicode then none
  else if f.dotAll then some CharSet.all
  else if f.carriageReturn then some CharSet.notLineEnd
  else some CharSet.notLineFeed

/-- The set of a literal.  Without Unicode an octet is no character beyond ASCII. -/
def literalSet? (f : Flags) (c : Char) (octet : Bool) : Option CharSet :=
  if octet && !mayStand f c then none
  else some (f.variants (CharSet.single c))

mutual
def Tree.meaning? (f : Flags) : Tree → Option (Pattern × Flags)
  | .empty => some (.empty, f)
  | .flags changes => some (.empty, f.changeAll changes)
  | .literal c octet => (literalSet? f c octet).map fun s => (.char s, f)
  | .dot => (dotSet? f).map fun s => (.char s, f)
  | .assertion kind => some (.edge (kind.edge f), f)
  | .property name negated => (propertySet? f name negated).map fun s => (.char s, f)
  | .letter class_ negated => (f.negate? negated (class_.set f)).map fun s => (.char s, f)
  | .bracketed negated inner =>
      ((ClassTree.bracketed negated inner).set? f).map fun s => (.char s, f)
  | .repetition least most greedy inner => do
      let (a, f') ← inner.meaning? f
      return (ofRounds a least most (greedy != f.swapGreed), f')
  | .capture index inner => do return (.group index (← inner.meaning? f).1, f)
  | .group changes inner => do return ((← inner.meaning? (f.changeAll changes)).1, f)
  | .alternation branches => do
      let (as, f') ← meanings? f branches
      return (ofBranches as, f')
  | .concat items => do
      let (as, f') ← meanings? f items
      return (ofSequence as, f')

/-- The patterns of trees one after the other, each under the flags behind the one before. -/
def meanings? (f : Flags) : List Tree → Option (List Pattern × Flags)
  | [] => some ([], f)
  | t :: rest => do
      let (a, f') ← t.meaning? f
      let (as, f'') ← meanings? f' rest
      return (a :: as, f'')
end

end ReplySchema.Pattern
