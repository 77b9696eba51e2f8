import ReplySchema.Json.Written
import ReplySchema.Response.Declaration
import ReplySchema.Text.Utf8

/-! # Payloads

A serializer produces a payload.  Text and octets can be sent; a payload that is still
a value cannot, and its type is named in the answer that is sent instead.
-/

set_option autoImplicit false

namespace ReplySchema

/-- What a serializer produces. -/
inductive Payload where
  | text (text : String)
  | binary (bytes : List UInt8)
  | value (value : Json)

namespace Payload

def isSendable : Payload → Bool
  | value _ => false
  | _ => true

def typeName : Payload → String
  | text _ => "string"
  | binary _ => "binary"
  | value v => v.typeName

/-- The octets that go out. -/
def bytes? : Payload → Option (List UInt8)
  | text s => some (Text.Utf8.encode s)
  | binary bytes => some bytes
  | value _ => none

/-- The payload as text, with U+FFFD for octets that are no text. -/
def toText : Payload → String
  | text s => s
  | binary bytes => Text.Utf8.decodeLenient bytes
  | value v => v.text

/-- What goes out where no schema applies, with its content type: a string as it is,
anything else as JSON. -/
def generic : Json → String × Payload
  | .string s => (MediaType.textUtf8, text s)
  | v => (MediaType.jsonUtf8, text v.text)

end Payload

end ReplySchema
