import ReplySchema.Unicode.Case
import ReplySchema.Unicode.Binary

/-! # Patterns and matching

A pattern is an expression over characters.  Matching is a function to lists: from a
place in a text it gives the places where a match can end, the preferred one first.
Every constructor is one equation.

Two ways that lead to one place need not be told apart afterwards, so of several places
with one position only the first, preferred one is kept.  This keeps patterns with
nested repetitions cheap.

The sets that patterns name are ranges of code points: digits, blanks and characters of
words, each for all scripts and for ASCII alone.
-/

set_option autoImplicit false

/-! ## §1  Sets of characters -/

namespace ReplySchema.Pattern

abbrev CharSet := Unicode.Ranges

namespace CharSet

open Unicode (Ranges)

def single (c : Char) : CharSet := [(c.toNat, c.toNat)]

def single? : CharSet → Option Nat
  | [(a, b)] => if a = b then some a else none
  | _ => none

def all : CharSet := [(0, Ranges.greatest)]

def notLineFeed : CharSet := Ranges.compl (single '\n')

/-- Everything but the line feed and the carriage return. -/
def notLineEnd : CharSet := Ranges.compl [(0x0A, 0x0A), (0x0D, 0x0D)]

def isAscii (s : CharSet) : Bool := List.all s fun r => r.2 ≤ 0x7F

def asciiDigit : CharSet := [(0x30, 0x39)]

def asciiWord : CharSet := [(0x30, 0x39), (0x41, 0x5A), (0x5F, 0x5F), (0x61, 0x7A)]

def asciiSpace : CharSet := [(0x09, 0x0D), (0x20, 0x20)]

/-- Decimal digits of all scripts. -/
def digit : CharSet := Unicode.categoryRanges "Nd"

def word : CharSet := Unicode.wordRanges

def space : CharSet := Unicode.propertyRanges "White_Space"

def asciiVariants (s : CharSet) : CharSet :=
  let upper := Ranges.inter s [(0x41, 0x5A)]
  let lower := Ranges.inter s [(0x61, 0x7A)]
  Ranges.unionAll
    [s, upper.map fun r => (r.1 + 0x20, r.2 + 0x20), lower.map fun r => (r.1 - 0x20, r.2 - 0x20)]

end CharSet

end ReplySchema.Pattern

/-! ## §2  Patterns -/

namespace ReplySchema

/-- A condition on a place in a text. -/
inductive Pattern.Edge where
  | textStart
  | textEnd
  /-- The ends of lines; `crlf` tells that a carriage return ends a line too. -/
  | lineStart (crlf : Bool)
  | lineEnd (crlf : Bool)
  /-- Between a character of a word and another or none; `ascii` says which are of words. -/
  | word (ascii : Bool)
  | notWord (ascii : Bool)
  | wordStart (ascii : Bool)
  | wordEnd (ascii : Bool)
  /-- Not behind a character of a word, and not before one. -/
  | wordStartHalf (ascii : Bool)
  | wordEndHalf (ascii : Bool)
deriving DecidableEq

inductive Pattern where
  | empty
  | char (set : Pattern.CharSet)
  | seq (a b : Pattern)
  | alt (a b : Pattern)
  /-- At least `least` and at most `most` rounds, as many as possible first if `greedy`. -/
  | repeated (a : Pattern) (least : Nat) (most : Option Nat) (greedy : Bool)
  /-- A group that remembers what it matched. -/
  | group (index : Nat) (a : Pattern)
  | edge (kind : Pattern.Edge)

namespace Pattern

/-! ## §3  Places -/

/-- A place in a text with the spans that groups have matched. -/
structure Place where
  spot : Nat
  groups : List (Nat × Nat × Nat) := []
deriving DecidableEq

def codeAt? (text : Array Char) (i : Nat) : Option Nat := (text[i]?).map Char.toNat

def codeBefore? (text : Array Char) (i : Nat) : Option Nat :=
  match i with
  | 0 => none
  | i + 1 => codeAt? text i

def isWord (ascii : Bool) : Option Nat → Bool
  | some n =>
      if n < 0x80 then Unicode.Ranges.contains n CharSet.asciiWord
      else !ascii && Unicode.Ranges.contains n CharSet.word
  | none => false

def Edge.holds (text : Array Char) (i : Nat) : Edge → Bool :=
  let before := codeBefore? text i
  let after := codeAt? text i
  fun
  | textStart => i == 0
  | textEnd => i == text.size
  | lineStart false => i == 0 || before == some 10
  | lineStart true => i == 0 || before == some 10 || (before == some 13 && after != some 10)
  | lineEnd false => i == text.size || after == some 10
  | lineEnd true =>
      i == text.size || after == some 13 || (after == some 10 && before != some 13)
  | word a => isWord a before != isWord a after
  | notWord a => isWord a before == isWord a after
  | wordStart a => !isWord a before && isWord a after
  | wordEnd a => isWord a before && !isWord a after
  | wordStartHalf a => !isWord a before
  | wordEndHalf a => !isWord a after

/-- Keeps of the places with one position the first. -/
def firsts (places : List Place) : List Place :=
  (places.foldl (fun kept p => if kept.any (·.spot == p.spot) then kept else p :: kept) []).reverse

/-! ## §4  Repetition -/

/-- The places after exactly so many rounds; rounds that change nothing more are left out. -/
def exactly (step : Place → List Place) : Nat → List Place → List Place
  | 0, places => places
  | n + 1, places =>
      let next := firsts (places.flatMap step)
      if next = places then places else exactly step n next

/-- The ends of rounds that have been met, with the number of rounds that may still follow. -/
abbrev Met := List (Option Nat × Nat)

/-- The places after one more round or several.  A round that ends where one has ended before,
with as many still to follow, adds nothing, and none follows a round that takes nothing.  So `fuel`
can be the number of characters that are left. -/
def moreRounds (step : Place → List Place) (greedy : Bool) :
    Nat → Option Nat → Place → StateM Met (List Place)
  | 0, _, _ => pure []
  | _ + 1, some 0, _ => pure []
  | fuel + 1, left, p => do
      let left := left.map (· - 1)
      let behind ← (step p).mapM fun q => do
        if (← get).contains (left, q.spot) then pure []
        else
          modify ((left, q.spot) :: ·)
          let more ← if q.spot = p.spot then pure [] else moreRounds step greedy fuel left q
          return if greedy then more ++ [q] else q :: more
      return behind.flatten

def someRounds (step : Place → List Place) (greedy : Bool) (fuel : Nat) (left : Option Nat)
    (p : Place) : List Place :=
  let more := ((moreRounds step greedy fuel left p).run []).1
  firsts (if greedy then more ++ [p] else p :: more)

/-! ## §5  Matching -/

/-- The places where a match that starts at a place can end, the preferred one first. -/
def ends (text : Array Char) : Pattern → Place → List Place
  | empty, p => [p]
  | char set, p =>
      match codeAt? text p.spot with
      | some n =>
          if Unicode.Ranges.contains n set then [{ p with spot := p.spot + 1 }] else []
      | none => []
  | seq a b, p => firsts ((ends text a p).flatMap (ends text b))
  | alt a b, p => firsts (ends text a p ++ ends text b p)
  | repeated a least most greedy, p =>
      firsts ((exactly (ends text a) least [p]).flatMap
        (someRounds (ends text a) greedy (text.size + 1) (most.map (· - least))))
  | group index a, p =>
      (ends text a p).map fun q =>
        { q with groups := (index, p.spot, q.spot) :: q.groups.filter (·.1 != index) }
  | edge kind, p => if kind.holds text p.spot then [p] else []

def match? (pattern : Pattern) (text : Array Char) (start : Nat) : Option Place :=
  (ends text pattern { spot := start }).head?

def isIn (pattern : Pattern) (text : String) : Bool :=
  let chars := text.toList.toArray
  (List.range (chars.size + 1)).any fun i => (pattern.match? chars i).isSome

end Pattern

end ReplySchema
