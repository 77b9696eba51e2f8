import ReplySchema.Uri.Host

/-! # Paths of absolute references

A path is built from the left, one segment after the other, on top of the text that is
there already.  A segment of one dot adds nothing, a segment of two dots removes the
last segment of that text, and all others are appended in percent encoding.  Drive
letters are special in two ways: no path goes up past a drive letter behind a slash,
and a `file` path that starts with one keeps it.

The text is held back to front, so that its last segment is in front.
-/

set_option autoImplicit false

namespace ReplySchema.Uri

/-! ## §1  Segments -/

def isSlash (special : Bool) (c : Char) : Bool := c == '/' || (special && c == '\\')

def endsPath (c : Char) : Bool := c == '?' || c == '#'

def rawSegments (special : Bool) : List Char → List (List Char)
  | [] => [[]]
  | c :: rest =>
      if isSlash special c then [] :: rawSegments special rest
      else
        match rawSegments special rest with
        | piece :: more => (c :: piece) :: more
        | [] => [[c]]

def dotForms : List String := [".", "%2e"]

def isDoubleDot (cs : List Char) : Bool :=
  (dotForms.flatMap fun a => dotForms.map (a ++ ·)).contains (Text.lower (String.ofList cs))

def isSingleDot (cs : List Char) : Bool := dotForms.contains (Text.lower (String.ofList cs))

/-- Whether a segment is a drive letter, with a colon or a bar behind it. -/
def isDrive : List Char → Bool
  | [a, b] => a.isAlpha && (b == ':' || b == '|')
  | _ => false

def isNormalDrive : List Char → Bool
  | [a, b] => a.isAlpha && b == ':'
  | _ => false

/-- Whether a text starts with a drive letter as its first segment. -/
def startsWithDrive : List Char → Bool
  | a :: b :: rest =>
      isDrive [a, b] &&
        match rest with
        | [] => true
        | c :: _ => isSlash true c || endsPath c
  | _ => false

/-! ## §2  Texts back to front -/

def lastSegment (back : List Char) : List Char := (back.takeWhile (· != '/')).reverse

/-- A path without its last segment; the drive letter of a `file` path stays. -/
def dropSegment (file : Bool) (back : List Char) : List Char :=
  if file && isNormalDrive (lastSegment back) then back else back.dropWhile (· != '/')

def endWithSlash (back : List Char) : List Char :=
  if back.head? = some '/' then back else '/' :: back

/-- Whether the slash at the end of a path may go: it is not the only one, and what stands
between the last two is no drive letter. -/
def slashMayGo (back : List Char) : Bool :=
  match back.tail.dropWhile (· != '/') with
  | [] => false
  | _ => !startsWithDrive (lastSegment back.tail ++ ['/'])

def goUp (file : Bool) (back : List Char) (slash : Bool) : List Char :=
  let back := if back.head? = some '/' && slashMayGo back then back.tail else back
  let up := dropSegment file back
  if slash then endWithSlash up else up

/-- Whether a raw segment is the drive letter at the head of a `file` path. -/
def isHeadDrive (file : Bool) (back raw : List Char) : Bool :=
  file && back.length == 1 && isDrive raw

/-- Appends one raw segment, with a slash behind it if there was one.  A `file` path that
is a lone drive letter gets a slash first, and a drive letter that comes first is written
with a colon. -/
def appendSegment (file : Bool) (back raw : List Char) (slash : Bool) : List Char :=
  let lone := file && raw != [] && isNormalDrive (back.reverse.drop 1)
  let back := if lone then '/' :: back else back
  if isDoubleDot raw then goUp file back slash
  else if isSingleDot raw then endWithSlash back
  else
    let shown :=
      if isHeadDrive file back raw then raw.take 1 ++ [':'] else encodeChars pathSet raw
    let all := shown.reverse ++ back
    if slash then '/' :: all else all

/-- Appends raw segments; all but the last have a slash behind them.  Also tells whether
one of them was a drive letter at the head of a `file` path. -/
def appendSegments (file : Bool) : List Char → List (List Char) → List Char × Bool
  | back, [] => (back, false)
  | back, raw :: rest =>
      let (all, drive) := appendSegments file (appendSegment file back raw !rest.isEmpty) rest
      (all, isHeadDrive file back raw || drive)

/-- Reads a path onto a path that is there already.  The path of a `file` address has one
slash at its head. -/
def readPath (special file : Bool) (start : String) (cs : List Char) : String × Bool :=
  let raw := rawSegments special (cs.takeWhile (!endsPath ·))
  let (back, drive) := appendSegments file start.toList.reverse raw
  let path := back.reverse
  (String.ofList (if file then '/' :: path.dropWhile (· == '/') else path), drive)

def parentPath (file : Bool) (path : String) : String :=
  String.ofList (dropSegment file path.toList.reverse).reverse

def firstSegment (path : String) : List Char :=
  (path.toList.drop 1).takeWhile (· != '/')

end ReplySchema.Uri
