import ReplySchema.Uri.Host

/-! # Web addresses and their templates

The grammar of addresses in ASCII and of those with letters beyond it, and the grammar
of templates with expressions in braces.
-/

set_option autoImplicit false

namespace ReplySchema.Validation.Format

/-! ## §1  Characters -/

/-- Whether one of the last two code points of a plane, or beyond all planes. -/
def isPlaneEnd (n : Nat) : Bool := 0xFFFE ≤ n % 0x10000

/-- A letter beyond ASCII that may stand anywhere in a wide address. -/
def isWideLetter (c : Char) : Bool :=
  let n := c.toNat
  (0xA0 ≤ n && n ≤ 0xD7FF) || (0xF900 ≤ n && n ≤ 0xFDCF) || (0xFDF0 ≤ n && n ≤ 0xFFEF) ||
    (0x10000 ≤ n && n ≤ 0xEFFFD && !isPlaneEnd n && !(0xE0000 ≤ n && n ≤ 0xE0FFF))

/-- A character for private use, which may stand in the query of a wide address. -/
def isPrivate (c : Char) : Bool :=
  let n := c.toNat
  (0xE000 ≤ n && n ≤ 0xF8FF) || (0xF0000 ≤ n && !isPlaneEnd n)

/-- A character that may stand in a web address as it is; `wide` admits letters beyond ASCII. -/
def isUriChar (wide : Bool) (extra : List Char) (c : Char) : Bool :=
  c.isAlphanum || "-._~!$&'()*+,;=".toList.contains c || extra.contains c ||
    (wide && isWideLetter c)

/-- Whether the text has percent codes and characters that pass only. -/
def isCoded (passes : Char → Bool) : List Char → Bool
  | [] => true
  | '%' :: a :: b :: rest =>
      (Uri.hexValue? a).isSome && (Uri.hexValue? b).isSome && isCoded passes rest
  | c :: rest => c != '%' && passes c && isCoded passes rest

def isUriText (wide : Bool) (extra : List Char) : List Char → Bool :=
  isCoded (isUriChar wide extra)

/-! ## §2  Addresses -/

/-- Eight groups, some of which a double colon may leave out. -/
def isIpv6 (cs : List Char) : Bool := (Uri.eightGroups? cs).isSome

/-- Four numbers up to 255 without leading zeros. -/
def isIpv4 (cs : List Char) : Bool := (Uri.octetGroups? cs).isSome

/-- A host in brackets: eight groups, or a version mark and a text. -/
def isBracketed (cs : List Char) : Bool :=
  isIpv6 cs ||
    match cs with
    | v :: rest =>
        match Text.cutAt '.' rest with
        | (version, some text) =>
            (v == 'v' || v == 'V') && !version.isEmpty && !text.isEmpty &&
              version.all (fun c => (Uri.hexValue? c).isSome) &&
              text.all (isUriChar false [':'])
        | _ => false
    | [] => false

def isUriHost (wide : Bool) (cs : List Char) : Bool :=
  match cs with
  | '[' :: rest =>
      match Text.cutAt ']' rest with
      | (inner, some tail) =>
          isBracketed inner &&
            match tail with
            | [] => true
            | ':' :: port => port.all Char.isDigit
            | _ => false
      | _ => false
  | _ =>
      let (name, port) := Text.cutAt ':' cs
      isUriText wide [] name && (port.getD []).all Char.isDigit

def isUriAuthority (wide : Bool) (cs : List Char) : Bool :=
  match Text.cutAt '@' cs with
  | (user, some host) => isUriText wide [':'] user && isUriHost wide host
  | (host, none) => isUriHost wide host

/-- What stands behind the scheme, without query and fragment. -/
def isUriBody (wide : Bool) (cs : List Char) : Bool :=
  match cs with
  | '/' :: '/' :: rest =>
      let host := rest.takeWhile (· != '/')
      isUriAuthority wide host && isUriText wide [':', '@', '/'] (rest.drop host.length)
  | _ => isUriText wide [':', '@', '/'] cs

def isScheme : List Char → Bool
  | c :: rest => c.isAlpha && rest.all fun d => d.isAlphanum || d == '+' || d == '-' || d == '.'
  | [] => false

/-- A query; in a wide address with characters for private use. -/
def isQuery (wide : Bool) : List Char → Bool :=
  isCoded fun c => isUriChar wide [':', '@', '/', '?'] c || (wide && isPrivate c)

/-- A web address, with a scheme unless it may be relative. -/
def isUri (wide relative : Bool) (cs : List Char) : Bool :=
  let (front, fragment) := Text.cutAt '#' cs
  let (path, query) := Text.cutAt '?' front
  isUriText wide [':', '@', '/', '?'] (fragment.getD []) && isQuery wide (query.getD []) &&
    match Text.cutAt ':' path with
    | (scheme, some body) =>
        if isScheme scheme then isUriBody wide body
        else relative && scheme.contains '/' && isUriBody wide path
    | (_, none) => relative && isUriBody wide path

/-! ## §3  Templates -/

/-- The name of a variable: words of letters, digits, underscores and percent codes, with points
between them. -/
def isVariable (cs : List Char) : Bool :=
  (Text.splitAll '.' cs).all fun word =>
    !word.isEmpty && isCoded (fun c => c.isAlphanum || c == '_') word

def isVariableUse (cs : List Char) : Bool :=
  match cs.getLast?, Text.cutAt ':' cs with
  | some '*', _ => isVariable cs.dropLast
  | _, (name, none) => isVariable name
  | _, (name, some length) =>
      isVariable name && !length.isEmpty && length.length ≤ 4 && length.all Char.isDigit &&
        length.head? != some '0'

/-- The marks that may stand at the start of an expression. -/
def operators : List Char := "+#./;?&=,!@|".toList

/-- An expression of an address template: an optional mark and variables with commas between. -/
def isExpression (cs : List Char) : Bool :=
  let uses := match cs with
    | c :: rest => if operators.contains c then rest else cs
    | [] => cs
  (Text.splitAll ',' uses).all isVariableUse

def reservedMarks : List Char :=
  ['"', Char.ofNat 0x27, '%', '<', '>', '\\', '^', Char.ofNat 0x60, '\x7b', '|', '\x7d']

def isLiteral (c : Char) : Bool :=
  if c.toNat < 0x80 then 0x20 < c.toNat && c.toNat != 0x7F && !reservedMarks.contains c
  else isWideLetter c || isPrivate c

/-- Whether the text between expressions is made of literals and percent codes, and the braces
are paired and hold expressions.  Text before and inside a brace is gathered back to front. -/
def isTemplateFrom : List Char → Option (List Char) → List Char → Bool
  | text, none, [] => isCoded isLiteral text.reverse
  | _, some _, [] => false
  | text, none, c :: rest =>
      if c = '\x7b' then isCoded isLiteral text.reverse && isTemplateFrom [] (some []) rest
      else isTemplateFrom (c :: text) none rest
  | text, some inner, c :: rest =>
      if c = '\x7d' then isExpression inner.reverse && isTemplateFrom text none rest
      else isTemplateFrom text (some (c :: inner)) rest

def isTemplate (cs : List Char) : Bool := isTemplateFrom [] none cs

end ReplySchema.Validation.Format
