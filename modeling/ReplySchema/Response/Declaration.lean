import ReplySchema.Json.Basic
import ReplySchema.Number.Decimal
import ReplySchema.Text.Blank
import ReplySchema.OptionError

/-! # Response declarations

A status selector is a group of status codes: a code such as `200`, a hundred such as
`2xx`, or `default` for the rest.  The more specific one wins.  Content types are compared
without their parameters, without blanks around them and in small letters.

A route declares its responses by status selector: either a schema, or a content map
with a schema for each media type.  Reading a declaration checks the keys and puts the
entries in the order in which they are tried, the most specific selectors first and
equal ranks in the order of declaration.

A *slot* is one declared schema with the selector and the media type it stands under.
For a status and a content type at most one slot applies: that of the first entry whose
selector covers the status, if it holds a plain schema, or if its content map knows the
media type or has a wildcard.  A content map that knows neither ends the search or
passes it on, as the policy says.
-/

set_option autoImplicit false

/-! ## §1  Status selectors -/

namespace ReplySchema

/-- A group of status codes. -/
inductive Selector where
  /-- One status code. -/
  | exact (code : Nat)
  /-- The codes with this first digit. -/
  | hundred (digit : Nat)
  /-- All codes. -/
  | rest
deriving DecidableEq, Repr

namespace Selector

/-- Reads a key: three digits of which the first is 1 to 5, such a digit with `xx` in either
case, or `default`. -/
def read? (key : String) : Option Selector :=
  let isClassDigit (c : Char) : Bool := '1' ≤ c && c ≤ '5'
  let isWild (c : Char) : Bool := c == 'x' || c == 'X'
  let cs := (Text.trim key).toList
  if cs = "default".toList then some rest
  else
    match cs with
    | [a, b, c] =>
        if isClassDigit a && b.isDigit && c.isDigit then some (exact (Decimal.ofDigits cs))
        else if isClassDigit a && isWild b && isWild c then some (hundred (Decimal.ofDigits [a]))
        else none
    | _ => none

/-- Whether a status code belongs to the group. -/
def covers : Selector → Nat → Bool
  | exact code, status => code == status
  | hundred digit, status => status / 100 == digit
  | rest, _ => true

/-- The rank in which selectors are tried; the lowest comes first. -/
def rank : Selector → Nat
  | exact _ => 0
  | hundred _ => 1
  | rest => 2

/-- The text of a selector: `200`, `2xx` or `default`. -/
def label : Selector → String
  | exact code => Decimal.ofNat code
  | hundred digit => Decimal.ofNat digit ++ "xx"
  | rest => "default"

end Selector

end ReplySchema

/-! ## §2  Media types -/

namespace ReplySchema.MediaType

/-- The media type of a reply that declares none. -/
def json : String := "application/json"

/-- The key of a content map that stands for every media type. -/
def wildcard : String := "*/*"

/-- The media type without parameters and blanks, in small letters. -/
def normalize (contentType : String) : String :=
  Text.lower (Text.trim (String.ofList (Text.cutAt ';' contentType.toList).1))

def jsonUtf8 : String := "application/json; charset=utf-8"

def textUtf8 : String := "text/plain; charset=utf-8"

end ReplySchema.MediaType

/-! ## §3  Declarations -/

namespace ReplySchema.Response

/-- What happens when the content map of a covering selector has nothing for a media type. -/
inductive Fallthrough where
  /-- No schema applies. -/
  | stop
  /-- The less specific selectors are tried. -/
  | next
deriving DecidableEq, Repr

namespace Fallthrough

def name : Fallthrough → String
  | stop => "stop"
  | next => "next"

def read (given : String) : Except OptionError Fallthrough :=
  chooseByName "content fallthrough" ([stop, next].map fun f => (f.name, f)) given

end Fallthrough

/-- What can be wrong with a declaration. -/
inductive Fault where
  | invalidSelector (key : String)
  | missingSchema (contentType : String)
deriving DecidableEq

/-- The schemas of one selector by media type. -/
structure ContentMap where
  entries : List (String × Json) := []
  wildcard : Option Json := none

/-- What one selector declares. -/
inductive Body where
  | schema (schema : Json)
  | content (map : ContentMap)

structure Entry where
  selector : Selector
  body : Body

/-- One declared schema; `mediaType` is the declared key, nothing for a plain schema. -/
structure Slot where
  selector : Selector
  mediaType : Option String
  schema : Json

/-- The entries of a declaration in the order in which they are tried. -/
structure Declaration where
  entries : List Entry := []

/-! ## §4  Reading -/

namespace ContentMap

/-- Adds one key of a content map.  A wildcard may lack its schema, any other key may not. -/
def add (map : ContentMap) (key : String) (value : Json) : Except Fault ContentMap :=
  if Text.trim key = MediaType.wildcard then .ok { map with wildcard := value.get? "schema" }
  else
    match value.get? "schema" with
    | some s => .ok { map with entries := map.entries ++ [(MediaType.normalize key, s)] }
    | none => .error (.missingSchema key)

def ofMembers (members : List (String × Json)) : Except Fault ContentMap :=
  members.foldlM (fun map p => map.add p.1 p.2) {}

/-- The declared schemas in order, the wildcard last. -/
def slots (map : ContentMap) : List (String × Json) :=
  map.entries ++ (map.wildcard.map fun s => (MediaType.wildcard, s)).toList

def find? (mediaType : String) (map : ContentMap) : Option (String × Json) :=
  (map.entries.find? fun e => e.1 == mediaType) <|>
    map.wildcard.map fun s => (MediaType.wildcard, s)

end ContentMap

/-- Reads what a selector declares: a content map if there is a `content` object. -/
def Body.ofJson (value : Json) : Except Fault Body :=
  match (value.get? "content").bind Json.asObject? with
  | some members => (ContentMap.ofMembers members).map .content
  | none => .ok (.schema value)

def Entry.ofMember (key : String) (value : Json) : Except Fault Entry :=
  match Selector.read? key with
  | none => .error (.invalidSelector key)
  | some selector => (Body.ofJson value).map fun body => { selector, body }

namespace Declaration

def ranked (entries : List Entry) (rank : Nat) : List Entry :=
  entries.filter fun e => e.selector.rank == rank

/-- The entries by rank; within a rank they keep their order. -/
def sorted (entries : List Entry) : List Entry :=
  ranked entries 0 ++ ranked entries 1 ++ ranked entries 2

/-- Reads a declaration; anything but an object declares nothing. -/
def ofJson (value : Json) : Except Fault Declaration := do
  let entries ← value.members.mapM fun p => Entry.ofMember p.1 p.2
  return { entries := sorted entries }

/-! ## §5  Slots -/

def entrySlots (e : Entry) : List Slot :=
  match e.body with
  | .schema s => [⟨e.selector, none, s⟩]
  | .content map => map.slots.map fun p => ⟨e.selector, some p.1, p.2⟩

def slots (d : Declaration) : List Slot := d.entries.flatMap entrySlots

/-- The slot for a media type among entries that cover the status. -/
def select? (policy : Fallthrough) (mediaType : String) : List Entry → Option Slot
  | [] => none
  | e :: rest =>
      match e.body with
      | .schema s => some ⟨e.selector, none, s⟩
      | .content map =>
          match map.find? mediaType with
          | some (key, s) => some ⟨e.selector, some key, s⟩
          | none =>
              match policy with
              | .stop => none
              | .next => select? policy mediaType rest

def resolve? (d : Declaration) (status : Nat) (contentType : Option String)
    (policy : Fallthrough) : Option Slot :=
  let mediaType := (contentType.map MediaType.normalize).getD MediaType.json
  select? policy mediaType (d.entries.filter fun e => e.selector.covers status)

end Declaration

end ReplySchema.Response
