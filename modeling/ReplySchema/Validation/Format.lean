import ReplySchema.Pattern.Script
import ReplySchema.Validation.Format.Host
import ReplySchema.Validation.Format.Moment

/-! # Formats of strings

The keyword `format` names a grammar for strings: dates and times, addresses of mail,
hosts and the web, pointers, patterns.  Names that are not known demand nothing.

Every grammar is a test on the characters of the string.
-/

set_option autoImplicit false

namespace ReplySchema.Validation.Format

/-! ## §1  Pointers and identifiers -/

/-- Whether each tilde is followed by `0` or `1`. -/
def hasPlainTildes : List Char → Bool
  | [] => true
  | '~' :: c :: rest => (c == '0' || c == '1') && hasPlainTildes rest
  | c :: rest => c != '~' && hasPlainTildes rest

/-- Empty, or a slash and tokens with escaped tildes. -/
def isPointer (cs : List Char) : Bool :=
  (cs.isEmpty || cs.head? == some '/') && hasPlainTildes cs

/-- A number of steps upwards, then a pointer or a hash mark. -/
def isRelativePointer (cs : List Char) : Bool :=
  let ds := cs.takeWhile Char.isDigit
  let rest := cs.drop ds.length
  !ds.isEmpty && (ds.length == 1 || ds.head? != some '0') && (rest == ['#'] || isPointer rest)

def isUuid (cs : List Char) : Bool :=
  let parts := Text.splitAll '-' cs
  parts.map List.length == [8, 4, 4, 4, 12] &&
    parts.all fun p => p.all fun c => (Uri.hexValue? c).isSome

/-! ## §2  The names -/

def named? (name : String) : Option (List Char → Bool) :=
  match name with
  | "date" => some isDate
  | "time" => some isTime
  | "date-time" => some isDateTime
  | "duration" => some isDuration
  | "email" => some (isMail isHostname)
  | "idn-email" => some (isMail isWideHostname)
  | "hostname" => some isHostname
  | "idn-hostname" => some isWideHostname
  | "ipv4" => some isIpv4
  | "ipv6" => some isIpv6
  | "uri" => some (isUri false false)
  | "uri-reference" => some (isUri false true)
  | "iri" => some (isUri true false)
  | "iri-reference" => some (isUri true true)
  | "uri-template" => some (isTemplate)
  | "json-pointer" => some isPointer
  | "relative-json-pointer" => some isRelativePointer
  | "regex" => some fun cs => (Pattern.Script.spellOut? (String.ofList cs)).isSome
  | "uuid" => some isUuid
  | _ => none

def admits (name value : String) : Bool :=
  match named? name with
  | some test => test value.toList
  | none => true

end ReplySchema.Validation.Format
