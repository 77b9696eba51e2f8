import ReplySchema.Domain.Name
import ReplySchema.Number.Decimal
import ReplySchema.Text.Blank
import ReplySchema.Text.Utf8

/-! # Hosts and percent encoding

The host of a web address is a name or a numeric address.  Names are folded to small
letters and written in ASCII; an address of four octets may be abbreviated or written in octal or
hexadecimal and is normalised to four decimal parts; an address of eight groups
stands in brackets and is normalised to its shortest form.  Schemes without special
rules keep their host as it is written.

Percent encoding replaces octets outside the set that a part of a reference allows.
-/

set_option autoImplicit false

namespace ReplySchema.Uri

-- Powers are those of the core library, whatever else is imported.
attribute [local instance (high)] instPowNat

/-! ## §1  Percent encoding -/

/-- An octet as a percent sign and two hexadecimal capitals. -/
def percentOctet (b : UInt8) : List Char :=
  ['%', (Nat.digitChar (b.toNat / 16)).toUpper, (Nat.digitChar (b.toNat % 16)).toUpper]

def isControl (c : Char) : Bool := c.toNat < 0x20 || 0x7F ≤ c.toNat

def encodeChars (extra : List Char) (cs : List Char) : List Char :=
  cs.flatMap fun c =>
    if isControl c || extra.contains c then (String.utf8EncodeChar c).flatMap percentOctet else [c]

def fragmentSet : List Char := [' ', '"', '<', '>', Char.ofNat 0x60]

def pathSet : List Char := fragmentSet ++ ['#', '?', '\x7b', '\x7d']

def userSet : List Char := pathSet ++ ['/', ':', ';', '=', '@', '[', '\\', ']', '^', '|']

def querySet (special : Bool) : List Char :=
  [' ', '"', '#', '<', '>'] ++ if special then ['\''] else []

def hexValue? (c : Char) : Option Nat :=
  if c.isDigit then some (c.toNat - '0'.toNat)
  else if 'a' ≤ c.toLower ∧ c.toLower ≤ 'f' then some (c.toLower.toNat - 'a'.toNat + 10)
  else none

/-- Replaces each percent sign with two hexadecimal digits by its octet. -/
def decodeChars : List Char → List UInt8
  | '%' :: a :: b :: rest =>
      match hexValue? a, hexValue? b with
      | some x, some y => UInt8.ofNat (x * 16 + y) :: decodeChars rest
      | _, _ => '%'.toUInt8 :: decodeChars (a :: b :: rest)
  | c :: rest => String.utf8EncodeChar c ++ decodeChars rest
  | [] => []

/-! ## §2  Addresses of four octets -/

def digitsOf? (base : Nat) (cs : List Char) : Option Nat :=
  cs.foldlM (fun acc c => do
    let d ← hexValue? c
    if d < base then some (acc * base + d) else none) 0

/-- One part of an address: hexadecimal behind `0x`, octal behind `0`, else decimal. -/
def octetsPart? : List Char → Option Nat
  | [] => none
  | '0' :: 'x' :: rest => digitsOf? 16 rest
  | '0' :: 'X' :: rest => digitsOf? 16 rest
  | '0' :: c :: rest => digitsOf? 8 (c :: rest)
  | cs => digitsOf? 10 cs

def dottedParts (cs : List Char) : List (List Char) :=
  let parts := Text.splitAll '.' cs
  if parts.getLast? == some [] then parts.dropLast else parts

/-- Whether the last part of a name makes it an address. -/
def endsInNumber (cs : List Char) : Bool :=
  match (dottedParts cs).getLast? with
  | some last =>
      (!last.isEmpty && last.all Char.isDigit) || (octetsPart? last).isSome
  | none => false

/-- The four octets of an address; the last part fills all octets that are left. -/
def fourOctets? (cs : List Char) : Option (List Nat) := do
  let numbers ← (dottedParts cs).mapM octetsPart?
  if 4 < numbers.length then none
  else
    let last ← numbers.getLast?
    let firsts := numbers.dropLast
    let left := 4 - firsts.length
    if firsts.any (255 < ·) || 256 ^ left ≤ last then none
    else some (firsts ++ (List.range left).map fun i => last / 256 ^ (left - 1 - i) % 256)

def dotted (octets : List Nat) : String := Text.joinWith "." (octets.map Decimal.ofNat)

/-! ## §3  Addresses of eight groups -/

/-- The hexadecimal groups between colons, at most four digits each. -/
def group? (cs : List Char) : Option Nat :=
  if cs.isEmpty || 4 < cs.length then none else digitsOf? 16 cs

/-- A part of four decimal octets, without leading zeros, as two groups. -/
def octetGroups? (cs : List Char) : Option (List Nat) := do
  let parts := Text.splitAll '.' cs
  let octets ← parts.mapM fun p => do
    let n ← Decimal.natOf? p
    if n ≤ 255 && (p.length == 1 || p.head? != some '0') then some n else none
  match octets with
  | [a, b, c, d] => some [a * 256 + b, c * 256 + d]
  | _ => none

/-- The groups of a row without the double colon; the last may be four octets. -/
def groups? (cs : List Char) : Option (List Nat) :=
  if cs.isEmpty then some []
  else
    let parts := Text.splitAll ':' cs
    let lastIndex := parts.length - 1
    let groupsOf (p : List Char × Nat) : Option (List Nat) :=
      if p.2 = lastIndex && p.1.contains '.' then octetGroups? p.1
      else (group? p.1).map fun g => [g]
    (parts.zipIdx.mapM groupsOf).map List.flatten

def cutDoubleColon : List Char → List Char × Option (List Char)
  | ':' :: ':' :: rest => ([], some rest)
  | c :: rest => (c :: (cutDoubleColon rest).1, (cutDoubleColon rest).2)
  | [] => ([], none)

/-- The eight groups of an address; a double colon stands for as many zeros as are missing. -/
def eightGroups? (cs : List Char) : Option (List Nat) :=
  match cutDoubleColon cs with
  | (all, none) => do
      let gs ← groups? all
      if gs.length = 8 then some gs else none
  | (front, some back) => do
      let gs ← groups? front
      let hs ← groups? back
      if front.contains '.' then none
      else if gs.length + hs.length ≤ 7 then
        some (gs ++ List.replicate (8 - gs.length - hs.length) 0 ++ hs)
      else none

def zeroRun (gs : List Nat) : Nat := (gs.takeWhile (· == 0)).length

def longestZeroRun (gs : List Nat) : Nat × Nat :=
  (List.range gs.length).foldl
    (fun best i => if best.2 < zeroRun (gs.drop i) then (i, zeroRun (gs.drop i)) else best) (0, 0)

def groupText (n : Nat) : String := String.ofList (Nat.toDigits 16 n)

/-- The shortest form: the longest run of at least two zeros becomes a double colon. -/
def grouped (gs : List Nat) : String :=
  let (start, length) := longestZeroRun gs
  if length < 2 then Text.joinWith ":" (gs.map groupText)
  else
    Text.joinWith ":" ((gs.take start).map groupText) ++ "::" ++
      Text.joinWith ":" ((gs.drop (start + length)).map groupText)

/-! ## §4  Hosts -/

def isForbidden (c : Char) : Bool :=
  ['\x00', '\t', '\n', '\r', ' ', '#', '/', ':', '<', '>', '?', '@', '[', '\\', ']', '^',
    '|'].contains c

def bracketed? (cs : List Char) : Option String :=
  if cs.getLast? = some ']' then
    (eightGroups? (cs.drop 1).dropLast).map fun gs => "[" ++ grouped gs ++ "]"
  else none

/-- The names of hosts in addresses: all printable characters are allowed but the forbidden ones
and the percent sign, and hyphens may stand anywhere. -/
def nameRules : Domain.Rules where
  allowed n := 0x20 < n && n < 0x7F && n != 0x25 && !isForbidden (Char.ofNat n)
  innerHyphens := false

/-- The normalised host of an address with special rules. -/
def host? (cs : List Char) : Option String :=
  if cs.head? = some '[' then bracketed? cs
  else
    match Domain.asciiName? nameRules (Text.Utf8.decodeLenient (decodeChars cs)).toList with
    | none => none
    | some name =>
        if name.isEmpty then none
        else if endsInNumber name then (fourOctets? name).map dotted
        else some (String.ofList name)

def plainHost? (cs : List Char) : Option String :=
  if cs.head? = some '[' then bracketed? cs
  else if cs.any isForbidden then none
  else some (String.ofList (encodeChars [] cs))

end ReplySchema.Uri
