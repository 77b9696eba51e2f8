import ReplySchema.Uri.Path

/-! # Absolute references and how relative ones are joined to them

Schema identifiers are often web addresses.  Two spellings of one address must name
one document, so addresses are read and written back in a normal form: the scheme in
small letters, the default port dropped, dot segments resolved, odd characters percent
encoded.  A relative reference is read against a base address in the same way.

Reading follows the URL standard: the schemes of the web are "special" (they need a
host, take a backslash for a slash, and always have a path), `file` addresses know
drive letters, and any other scheme followed by no slash has a path that is kept
whole, so nothing can be joined to it.
-/

set_option autoImplicit false

namespace ReplySchema

/-- What stands behind the double slash. -/
structure Uri.Authority where
  /-- User name and password with their colon, encoded; empty if there are none. -/
  user : String
  host : String
  port : Option Nat
deriving DecidableEq

/-- A path: empty or with a slash at its head, or a text kept whole. -/
inductive Uri.Path where
  | rooted (text : String)
  | whole (text : String)
deriving DecidableEq

/-- An absolute reference in normal form. -/
structure Uri where
  scheme : String
  authority : Option Uri.Authority
  path : Uri.Path
  query : Option String
  fragment : Option String
deriving DecidableEq

namespace Uri

/-! ## §1  Schemes -/

/-- The default port of a special scheme; `file` is special and has none. -/
def specialScheme? (scheme : String) : Option (Option Nat) :=
  match scheme with
  | "http" => some (some 80)
  | "https" => some (some 443)
  | "ws" => some (some 80)
  | "wss" => some (some 443)
  | "ftp" => some (some 21)
  | "file" => some none
  | _ => none

def isSpecial (scheme : String) : Bool := (specialScheme? scheme).isSome

def takeScheme (cs : List Char) : Option (String × List Char) :=
  let isPart (c : Char) : Bool := c.isAlphanum || c == '+' || c == '-' || c == '.'
  match cs.head?, cs.dropWhile isPart with
  | some c, ':' :: rest =>
      if c.isAlpha then
        some (String.ofList ((cs.takeWhile isPart).map Char.toLower), rest)
      else none
  | _, _ => none

/-! ## §2  Paths, queries and fragments -/

def readOnto (scheme start : String) (cs : List Char) : String :=
  (readPath (isSpecial scheme) (scheme == "file") start cs).1

def readTail (scheme : String) (cs : List Char) : Option String × Option String :=
  match cs.dropWhile (!endsPath ·) with
  | '?' :: rest =>
      let (q, f) := Text.cutAt '#' rest
      (some (String.ofList (encodeChars (querySet (isSpecial scheme)) q)),
        f.map fun f => String.ofList (encodeChars fragmentSet f))
  | '#' :: rest => (none, some (String.ofList (encodeChars fragmentSet rest)))
  | _ => (none, none)

/-- Puts an address together from its path and the text that holds query and fragment. -/
def withTail (scheme : String) (authority : Option Authority) (path : Path) (cs : List Char) :
    Uri :=
  let (query, fragment) := readTail scheme cs
  { scheme, authority, path, query, fragment }

/-! ## §3  Authorities -/

def cutUser (cs : List Char) : Option (List Char) × List Char :=
  if cs.contains '@' then
    let back := cs.reverse
    (some (back.dropWhile (· != '@')).tail.reverse, (back.takeWhile (· != '@')).reverse)
  else (none, cs)

def userText (cs : List Char) : String :=
  let (name, password) := Text.cutAt ':' cs
  let enc (xs : List Char) : List Char := encodeChars userSet xs
  String.ofList (enc name ++
    match password with
    | none => []
    | some p => if p.isEmpty then [] else ':' :: enc p)

/-- Cuts where a host ends: at a colon that does not stand inside brackets, or where the
authority ends. -/
def cutHost (special : Bool) : Bool → List Char → List Char × List Char
  | _, [] => ([], [])
  | inside, c :: rest =>
      if (c = ':' ∧ inside = false) ∨ isSlash special c ∨ endsPath c then ([], c :: rest)
      else
        let inside := if c = '[' then true else if c = ']' then false else inside
        (c :: (cutHost special inside rest).1, (cutHost special inside rest).2)

/-- Cuts where a port ends: at a slash of either kind, or where a path ends. -/
def cutPort (cs : List Char) : List Char × List Char :=
  let isEnd (c : Char) : Bool := isSlash true c || endsPath c
  (cs.takeWhile (!isEnd ·), cs.dropWhile (!isEnd ·))

/-- Reads a port; the default port counts as none. -/
def readPort? (scheme : String) : Option (List Char) → Option (Option Nat)
  | none => some none
  | some [] => some none
  | some cs => do
      let n ← Decimal.natOf? cs
      if 65535 < n then none
      else if specialScheme? scheme = some (some n) then some none
      else some (some n)

def readAuthority? (scheme : String) (cs : List Char) : Option (Authority × List Char) := do
  let special := isSpecial scheme
  let isEnd (c : Char) : Bool := isSlash special c || endsPath c
  let front := cs.takeWhile (!isEnd ·)
  if front = ['@'] ∧ front.length < cs.length then none
  let (user, rest) := cutUser front
  let (hostChars, behind) := cutHost special false (rest ++ cs.dropWhile (!isEnd ·))
  let host ← if special then host? hostChars else plainHost? hostChars
  let (portChars, behind) :=
    match behind with
    | ':' :: more => (some (cutPort more).1, (cutPort more).2)
    | _ => (none, behind)
  let port ← readPort? scheme portChars
  let user := (user.map userText).getD ""
  if host.isEmpty && (portChars.isSome || special || user != "") then none
  else some ({ user, host, port }, behind)

/-- Reads the path behind an authority.  It is missing only where the scheme allows that,
and it starts with a slash. -/
def pathBehind (scheme : String) (cs : List Char) : String :=
  let special := isSpecial scheme
  match cs with
  | [] => if special then "/" else ""
  | c :: rest =>
      if isSlash special c then readOnto scheme "/" rest
      else if endsPath c && !special then ""
      else readOnto scheme "/" cs

def readBehindSlashes? (scheme : String) (cs : List Char) : Option Uri := do
  let (authority, rest) ← readAuthority? scheme cs
  return withTail scheme (some authority) (.rooted (pathBehind scheme rest)) rest

/-! ## §4  File addresses -/

def fileAuthority (host : String) : Option Authority := some { user := "", host, port := none }

/-- The text of a path that starts with a slash; a whole path has none. -/
def Path.rootedText : Path → String
  | rooted t => t
  | whole _ => ""

def hostText (u : Uri) : String := (u.authority.map (·.host)).getD ""

/-- Reads what stands behind `file:` or, without a scheme, against a `file` base. -/
def readFile? (base : Option Uri) (cs : List Char) : Option Uri :=
  let onto (host start : String) (body : List Char) : Uri :=
    withTail "file" (fileAuthority host) (.rooted (readOnto "file" start body)) body
  match cs with
  | a :: rest =>
      if isSlash true a then
        match rest with
        | b :: more =>
            if isSlash true b then
              let hostEnd (c : Char) : Bool := isSlash true c || endsPath c
              let name := more.takeWhile (!hostEnd ·)
              let body := more.dropWhile (!hostEnd ·)
              if isDrive name then some (onto "" "/" more)
              else if name.isEmpty then some (onto "" "/" body)
              else do
                let host ← host? name
                if host == "localhost" then onto "" "/" body
                else
                  let path := if body.head?.any (isSlash true) then body.tail else body
                  let u := onto host "/" path
                  let drops := (readPath true true "/" path).2
                  return if drops then { u with authority := fileAuthority "" } else u
            else some (singleSlash cs)
        | [] => some (singleSlash cs)
      else
        match base with
        | none => some (onto "" "/" cs)
        | some b =>
            if a = '?' then some (withTail "file" b.authority b.path cs)
            else if a = '#' then
              some { b with fragment := (withTail "file" none b.path cs).fragment }
            else if startsWithDrive cs then some (onto "" "/" cs)
            else
              some (withTail "file" b.authority
                (.rooted (readOnto "file" (parentPath true b.path.rootedText) cs)) cs)
  | [] =>
      match base with
      | none => some (onto "" "/" [])
      | some b => some { b with fragment := none }
where
  /-- One slash: the drive letter or the host of the base stays. -/
  singleSlash (cs : List Char) : Uri :=
    let kept : String × String :=
      match base with
      | some b =>
          let first := firstSegment b.path.rootedText
          if startsWithDrive (cs.drop 1) then ("", "")
          else if isNormalDrive first then ("", String.ofList ('/' :: first))
          else (hostText b, "")
      | none => ("", "")
    withTail "file" (fileAuthority kept.1) (.rooted (readOnto "file" kept.2 cs)) cs

/-! ## §5  Reading -/

/-- Reads a reference without a scheme against a base with a rooted path. -/
def readRelative? (base : Uri) (cs : List Char) : Option Uri :=
  let onto (start : String) (body : List Char) : Uri :=
    withTail base.scheme base.authority (.rooted (readOnto base.scheme start body)) body
  match cs with
  | [] => some { base with fragment := none }
  | c :: rest =>
      if c = '?' then some (withTail base.scheme base.authority base.path cs)
      else if c = '#' then
        some { base with fragment := (withTail base.scheme none base.path cs).fragment }
      else if isSlash true c then
        match rest with
        | d :: more =>
            if isSlash true d then
              readBehindSlashes? base.scheme
                (if c = '/' ∧ d = '/' then more else more.dropWhile (isSlash true))
            else some (onto "/" rest)
        | [] => some (onto "/" rest)
      else
        let parent := parentPath false base.path.rootedText
        some (onto (if parent.isEmpty then "/" else parent) cs)

def readBehindScheme? (base : Option Uri) (scheme : String) (cs : List Char) : Option Uri :=
  if scheme == "file" then readFile? (base.filter (·.scheme == "file")) cs
  else if isSpecial scheme then
    let body := cs.dropWhile (isSlash true)
    match base with
    | some b =>
        if cs.length - body.length < 2 && b.scheme == scheme then readRelative? b cs
        else readBehindSlashes? scheme body
    | none => readBehindSlashes? scheme body
  else
    match cs with
    | '/' :: '/' :: rest => readBehindSlashes? scheme rest
    | '/' :: rest => some (withTail scheme none (.rooted (readOnto scheme "/" rest)) rest)
    | _ =>
        some (withTail scheme none
          (.whole (String.ofList (encodeChars [] (cs.takeWhile (!endsPath ·))))) cs)

/-- The characters that are read: without control characters and spaces at the ends, and
without tabs and line breaks anywhere. -/
def cleaned (text : String) : List Char :=
  (Text.stripWhile (·.toNat ≤ 0x20) text.toList).filter
    fun c => c != '\t' && c != '\n' && c != '\r'

def readAgainst? (base : Option Uri) (text : String) : Option Uri :=
  let cs := cleaned text
  match takeScheme cs with
  | some (scheme, rest) => readBehindScheme? base scheme rest
  | none =>
      match base with
      | none => none
      | some b =>
          match b.path, cs with
          | .whole _, '#' :: _ => readRelative? b cs
          | .whole _, _ => none
          | .rooted _, _ =>
              if b.scheme == "file" then readFile? (some b) cs else readRelative? b cs

def read? (text : String) : Option Uri := readAgainst? none text

def join? (base : Uri) (text : String) : Option Uri := readAgainst? (some base) text

/-! ## §6  Writing -/

def Authority.text (a : Authority) : String :=
  (if a.user.isEmpty then "" else a.user ++ "@") ++ a.host ++
    match a.port with
    | some p => ":" ++ Decimal.ofNat p
    | none => ""

def Path.text : Path → String
  | rooted t => t
  | whole t => t

/-- The address as text.  Without an authority a path must not start with two slashes. -/
def text (u : Uri) : String :=
  let path := u.path.text
  u.scheme ++ ":" ++
    (match u.authority with
      | some a => "//" ++ a.text
      | none => if path.startsWith "//" then "/." else "") ++
    path ++
    (match u.query with
      | some q => "?" ++ q
      | none => "") ++
    match u.fragment with
    | some f => "#" ++ f
    | none => ""

/-- The address without its fragment.  Spaces at the end of a whole path only stood there
because a fragment followed. -/
def withoutFragment (u : Uri) : Uri :=
  match u.path, u.query with
  | .whole t, none =>
      { u with
        fragment := none, path := .whole (String.ofList (Text.dropEndWhile (· == ' ') t.toList)) }
  | _, _ => { u with fragment := none }

end Uri

end ReplySchema
