import ReplySchema.Unicode.Canonical
import ReplySchema.Unicode.Category
import ReplySchema.Unicode.Direction

/-! # Labels beyond ASCII

What a label of a host name may look like: where hyphens and joiners stand, in which
direction its characters run, and which characters need certain neighbours.  Labels are
lists of code points that are mapped already.

`hyphensInside`, `isShaped`, `runsOneWay` and `fitsContext` are independent of each other.
-/

set_option autoImplicit false

namespace ReplySchema.Domain

open Unicode (Ranges)

def hyphen : Nat := 0x2D

/-! ## §1  Hyphens, marks and joiners -/

/-- Whether hyphens are inside only, and not two of them at the third place. -/
def hyphensInside (ns : List Nat) : Bool :=
  ns.head? != some hyphen && ns.getLast? != some hyphen &&
    !(ns[2]? == some hyphen && ns[3]? == some hyphen)

/-- Whether a character belongs to the one before it. -/
def isMark (n : Nat) : Bool :=
  0x300 ≤ n && Ranges.contains n (Unicode.categories ["Mn", "Mc", "Me"])

/-- The class of the marks that take the vowel from a letter. -/
def silentClass : Nat := 9

def isTransparent (n : Nat) : Bool := Ranges.contains n (Ranges.ofRow Unicode.transparentRow)

/-- Whether a character joins with the one behind it. -/
def joinsNext (n : Nat) : Bool :=
  Ranges.contains n (Ranges.ofRow Unicode.leftJoiningRow) ||
    Ranges.contains n (Ranges.ofRow Unicode.dualJoiningRow)

def joinsLast (n : Nat) : Bool :=
  Ranges.contains n (Ranges.ofRow Unicode.rightJoiningRow) ||
    Ranges.contains n (Ranges.ofRow Unicode.dualJoiningRow)

/-- Whether a joiner or a non-joiner may stand between the characters `back`, the last one first,
and the characters `rest`.  Both may stand behind a mark that silences a letter; the non-joiner
may also stand between characters that would join. -/
def joinerAllowed (n : Nat) (back rest : List Nat) : Bool :=
  (match back with
    | last :: _ => Unicode.markClass last == silentClass
    | [] => false) ||
  (n == 0x200C &&
    ((back.dropWhile isTransparent).head?.any joinsNext &&
      (rest.dropWhile isTransparent).head?.any joinsLast))

/-- Whether all joiners of a label stand where they may; `back` is what stands before `ns`. -/
def joinersAllowed (back : List Nat) : List Nat → Bool
  | [] => true
  | n :: rest =>
      (if n = 0x200C ∨ n = 0x200D then joinerAllowed n back rest else true) &&
        joinersAllowed (n :: back) rest

def isShaped (ns : List Nat) : Bool := !ns.head?.any isMark && joinersAllowed [] ns

/-! ## §2  Directions -/

/-- How a character takes part in the direction of a text. -/
inductive Direction where
  | leftToRight
  | rightToLeft
  | arabicNumber
  | europeanNumber
  | mark
  | neutral
  | other
  deriving DecidableEq, BEq

/-- The direction of a character.  Arabic letters run to the left like the others. -/
def direction (n : Nat) : Direction :=
  let within (row : String) : Bool := Ranges.contains n (Ranges.ofRow row)
  if 0x61 ≤ n ∧ n ≤ 0x7A then .leftToRight
  else if 0x30 ≤ n ∧ n ≤ 0x39 then .europeanNumber
  else if n = hyphen then .neutral
  else if within Unicode.leftToRightRow then .leftToRight
  else if within Unicode.rightToLeftRow || within Unicode.arabicLetterRow then .rightToLeft
  else if within Unicode.arabicNumberRow then .arabicNumber
  else if within Unicode.europeanNumberRow then .europeanNumber
  else if within Unicode.markRow then .mark
  else if within Unicode.neutralRow then .neutral
  else .other

def runsLeft (ds : List Direction) : Bool :=
  ds.any fun d => d == .rightToLeft || d == .arabicNumber

/-- Whether a label runs in one direction from its first character to the last one that is no
mark. -/
def runsOneWay (ds : List Direction) : Bool :=
  let last := (ds.reverse.dropWhile (· == .mark)).head?
  match ds.head? with
  | some .leftToRight =>
      ds.all (fun d => [.leftToRight, .europeanNumber, .neutral, .mark].contains d) &&
        last.any fun d => [.leftToRight, .europeanNumber].contains d
  | some .rightToLeft =>
      ds.all (fun d =>
        [.rightToLeft, .arabicNumber, .europeanNumber, .neutral, .mark].contains d) &&
        last.any (fun d => [.rightToLeft, .europeanNumber, .arabicNumber].contains d) &&
        !(ds.contains .europeanNumber && ds.contains .arabicNumber)
  | _ => false

/-! ## §3  Neighbours -/

/-- Characters that stand in no name although mapping keeps them. -/
def unfit : List Nat :=
  [0x0640, 0x07FA, 0x302E, 0x302F, 0x3031, 0x3032, 0x3033, 0x3034, 0x3035, 0x303B]

def between (low high n : Nat) : Bool := low ≤ n && n ≤ high

/-- A syllable or an ideograph, but not the middle dot of Katakana. -/
def isEastern (n : Nat) : Bool :=
  between 0x3040 0x309F n || (between 0x30A0 0x30FF n && n != 0x30FB) || between 0x4E00 0x9FFF n

/-- Whether a character may stand behind `last?` and before `next?` in a text. -/
def fitsBetween (last? : Option Nat) (n : Nat) (next? : Option Nat) : Bool :=
  match n with
  | 0xB7 => last? == some 0x6C && next? == some 0x6C
  | 0x375 => next?.any (between 0x0370 0x03FF)
  | 0x5F3 | 0x5F4 => last?.any (between 0x0590 0x05FF)
  | _ => !unfit.contains n

/-- Whether the neighbours of all characters are fit, behind the character `last?`. -/
def allFitBetween (last? : Option Nat) : List Nat → Bool
  | [] => true
  | n :: rest => fitsBetween last? n rest.head? && allFitBetween (some n) rest

/-- Whether all characters of a text have the company that they need. -/
def fitsContext (ns : List Nat) : Bool :=
  allFitBetween none ns && (!ns.contains 0x30FB || ns.any isEastern) &&
    !(ns.any (between 0x660 0x669) && ns.any (between 0x6F0 0x6F9))

end ReplySchema.Domain
