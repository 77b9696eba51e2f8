import ReplySchema.Domain.Label
import ReplySchema.Domain.Mapping
import ReplySchema.Domain.Punycode

/-! # Host names beyond ASCII

A host name is mapped and cut at its points into labels.  A label that starts with `xn--`
holds its characters in ASCII and is read.  `labels?` gives the labels of a name if each
of them is in order, `asciiName?` writes them in ASCII.  How strict that is depends on
what the name is for: `Rules` says it.  `isName` is the strictest test, which also checks
lengths and neighbours.
-/

set_option autoImplicit false

namespace ReplySchema.Domain

/-! ## §1  Rules -/

structure Rules where
  /-- The ASCII characters that may stand in a label. -/
  allowed : Nat → Bool
  /-- Whether hyphens have to stand inside a label. -/
  innerHyphens : Bool

def isPlain (n : Nat) : Bool := between 0x61 0x7A n || between 0x30 0x39 n || n == hyphen

def strict : Rules := ⟨isPlain, true⟩

/-! ## §2  Labels -/

def greatestName : Nat := 253

def greatestLabel : Nat := 63

def greatestRead : Nat := 2000

/-- The greatest length of a label that is written in ASCII. -/
def greatestWritten : Nat := 1000

/-- The code points at the start of a label that is written in ASCII. -/
def writtenMark : List Nat := [0x78, 0x6E, hyphen, hyphen]

def isAscii (n : Nat) : Bool := n < 0x80

def writeLabel? (ns : List Nat) : Option (List Nat) :=
  if ns.all isAscii then some ns
  else if ns.length ≤ greatestWritten then some (writtenMark ++ Punycode.encode ns)
  else none

/-- The characters of a label that is mapped. -/
def readLabel? (rules : Rules) (ns : List Nat) : Option (List Nat) := do
  if !ns.all fun n => rules.allowed n || !isAscii n then none
  let read ←
    if ns.take 4 = writtenMark then
      if ns.length ≤ greatestRead && ns.all isAscii then
        (Punycode.decode? (ns.drop 4)).filter isMapped
      else none
    else some ns
  if isShaped read && (hyphensInside read || !rules.innerHyphens) then some read else none

/-! ## §3  Names -/

def cutLabels : List Nat → List (List Nat)
  | [] => [[]]
  | n :: rest =>
      match cutLabels rest with
      | label :: labels => if n = 0x2E then [] :: label :: labels else (n :: label) :: labels
      | [] => [[n]]

def joinLabels (labels : List (List Nat)) : List Nat := (labels.intersperse [0x2E]).flatten

/-- The labels of a name.  If one of them runs to the left, all that are not empty have to run one
way. -/
def labels? (rules : Rules) (ns : List Nat) : Option (List (List Nat)) := do
  let mapped ← mapText? ns
  let labels ← (cutLabels mapped).mapM (readLabel? rules)
  let directions := (labels.filter fun l => !l.isEmpty).map fun l => l.map direction
  if directions.any runsLeft && !directions.all runsOneWay then none else some labels

def asciiName? (rules : Rules) (cs : List Char) : Option (List Char) := do
  let labels ← labels? rules (cs.map Char.toNat)
  let written ← labels.mapM writeLabel?
  some ((joinLabels written).map Char.ofNat)

/-- Whether a text is a host name that can be registered; it may hold characters beyond ASCII. -/
def isName (cs : List Char) : Bool :=
  match labels? strict (cs.map Char.toNat) with
  | none => false
  | some labels =>
      match labels.mapM writeLabel? with
      | some written =>
          written.all (fun l => between 1 greatestLabel l.length) &&
            (joinLabels written).length ≤ greatestName && fitsContext (joinLabels labels)
      | none => false

end ReplySchema.Domain
