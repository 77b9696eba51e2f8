import ReplySchema.Domain.Name
import ReplySchema.Validation.Format.Address

/-! # Hosts and mail -/

set_option autoImplicit false

namespace ReplySchema.Validation.Format

-- Sums are those of the core library, whatever else is imported.
attribute [local instance (high)] Zero.ofOfNat0

/-! ## §1  Host names -/

/-- Whether a label holds characters beyond ASCII that are written in ASCII. -/
def isWritten (cs : List Char) : Bool :=
  (cs.take 4).map Char.toLower == ['x', 'n', '-', '-']

/-- A label of letters, digits and inner hyphens, which has two hyphens at the third place only
behind the mark of written labels. -/
def isLabel (cs : List Char) : Bool :=
  !cs.isEmpty && cs.length ≤ Domain.greatestLabel &&
    cs.all (fun c => c.isAlphanum || c == '-') && cs.head? != some '-' && cs.getLast? != some '-' &&
    (isWritten cs || !(cs[2]? == some '-' && cs[3]? == some '-'))

/-- A host name of such labels with points between them.  Written labels have to be readable. -/
def isHostname (cs : List Char) : Bool :=
  let labels := Text.splitAll '.' cs
  cs.length ≤ Domain.greatestName && labels.all isLabel &&
    (!labels.any isWritten || Domain.isName cs)

def isWideHostname (cs : List Char) : Bool := Domain.isName cs

/-! ## §2  Mail -/

def mailMarks : List Char :=
  ['!', '#', '$', '%', '&', Char.ofNat 0x27, '*', '+', '-', '/', '=', '?', '^', '_',
    Char.ofNat 0x60, '\x7b', '|', '\x7d', '~']

def isMailChar (c : Char) : Bool := c.isAlphanum || mailMarks.contains c || 0x80 ≤ c.toNat

def isDotted (cs : List Char) : Bool :=
  (Text.splitAll '.' cs).all fun word => !word.isEmpty && word.all isMailChar

def isVisible (c : Char) : Bool := 0x21 ≤ c.toNat && c.toNat ≤ 0x7E

def isQuotedMail : List Char → Bool
  | [] => true
  | '\\' :: c :: rest => isVisible c && isQuotedMail rest
  | c :: rest =>
      ((isVisible c && c != '\\' && c != '"') || c == ' ' || c == '\t') && isQuotedMail rest

def octets (cs : List Char) : Nat := (cs.map Char.utf8Size).sum

def isMailName (cs : List Char) : Bool :=
  octets cs ≤ 64 &&
    match cs with
    | '"' :: rest =>
        if rest.getLast? = some '"' then 2 ≤ rest.length && isQuotedMail rest.dropLast
        else isDotted cs
    | _ => isDotted cs

/-- An address in brackets: of eight groups behind a mark, or of four octets. -/
def isMailLiteral (cs : List Char) : Bool :=
  if cs.take 5 = "IPv6:".toList then isIpv6 (cs.drop 5) else isIpv4 cs

/-- What stands behind the `@`; a host name passes the test. -/
def isMailHost (isHost : List Char → Bool) (cs : List Char) : Bool :=
  octets cs ≤ 254 &&
    match cs with
    | '[' :: rest => rest.getLast? == some ']' && isMailLiteral rest.dropLast
    | _ =>
        isDotted cs && (Text.splitAll '.' cs).all (fun l => octets l ≤ Domain.greatestLabel) &&
          isHost cs

def cutMail? (cs : List Char) : Option (List Char × List Char) :=
  match Text.cutAt '@' cs.reverse with
  | (back, some front) => some (front.reverse, back.reverse)
  | _ => none

/-- What stands behind the last blank with an opening angle. -/
def behindAngle? : List Char → Option (List Char)
  | [] => none
  | c :: rest =>
      match behindAngle? rest, rest with
      | some inner, _ => some inner
      | none, '<' :: inner => if c = ' ' then some inner else none
      | none, _ => none

/-- The bare address, which may stand in angles behind the name of a person. -/
def bareMail? (cs : List Char) : Option (List Char) :=
  match behindAngle? cs with
  | none => some cs
  | some inner =>
      let trimmed := Text.stripWhile Text.isBlank inner
      if trimmed.getLast? = some '>' then some trimmed.dropLast else none

def isMail (isHost : List Char → Bool) (cs : List Char) : Bool :=
  match (bareMail? cs).bind cutMail? with
  | some (name, host) => isMailName name && isMailHost isHost host
  | none => false

end ReplySchema.Validation.Format
