import ReplySchema.Json.Basic
import ReplySchema.Serializer.Writer

/-! # Handler errors

An error that a handler hands back, or that arises on its behalf.  Clients get a
*projection* of it: the status with its phrase, the code if there is one, the message,
and the properties of the error.  A property cannot take the name of one of these
members, nor of those that stay inside.  The phrase is the registered one of the status.
-/

set_option autoImplicit false

/-! ## §1  Reason phrases -/

namespace ReplySchema.Reply

def reasonTable : List (Nat × String) :=
  [(100, "Continue"), (101, "Switching Protocols"), (102, "Processing"), (103, "Early Hints"),
    (200, "OK"), (201, "Created"), (202, "Accepted"), (203, "Non Authoritative Information"),
    (204, "No Content"), (205, "Reset Content"), (206, "Partial Content"),
    (207, "Multi-Status"), (208, "Already Reported"), (226, "IM Used"),
    (300, "Multiple Choices"), (301, "Moved Permanently"), (302, "Found"), (303, "See Other"),
    (304, "Not Modified"), (305, "Use Proxy"), (307, "Temporary Redirect"),
    (308, "Permanent Redirect"),
    (400, "Bad Request"), (401, "Unauthorized"), (402, "Payment Required"), (403, "Forbidden"),
    (404, "Not Found"), (405, "Method Not Allowed"), (406, "Not Acceptable"),
    (407, "Proxy Authentication Required"), (408, "Request Timeout"), (409, "Conflict"),
    (410, "Gone"), (411, "Length Required"), (412, "Precondition Failed"),
    (413, "Payload Too Large"), (414, "URI Too Long"), (415, "Unsupported Media Type"),
    (416, "Range Not Satisfiable"), (417, "Expectation Failed"), (418, "I'm a teapot"),
    (421, "Misdirected Request"), (422, "Unprocessable Entity"), (423, "Locked"),
    (424, "Failed Dependency"), (425, "Too Early"), (426, "Upgrade Required"),
    (428, "Precondition Required"), (429, "Too Many Requests"),
    (431, "Request Header Fields Too Large"), (451, "Unavailable For Legal Reasons"),
    (500, "Internal Server Error"), (501, "Not Implemented"), (502, "Bad Gateway"),
    (503, "Service Unavailable"), (504, "Gateway Timeout"),
    (505, "HTTP Version Not Supported"), (506, "Variant Also Negotiates"),
    (507, "Insufficient Storage"), (508, "Loop Detected"), (510, "Not Extended"),
    (511, "Network Authentication Required")]

def reasonPhrase (status : Nat) : String :=
  ((reasonTable.find? fun p => p.1 == status).map (·.2)).getD "Unknown Status"

end ReplySchema.Reply

/-! ## §2  Errors and what is sent for them -/

namespace ReplySchema

/-- The route and status of a reply whose serialization failed. -/
structure SerializationMark where
  method : String
  url : String
  status : Nat
deriving DecidableEq, Repr

/-- An error in place of a reply. -/
structure HandlerError where
  message : String
  name : String := "Error"
  status : Option Nat := none
  code : Option String := none
  /-- What the application adds, in order and with distinct keys. -/
  properties : Table String Json := []
  stack : Option String := none
  /-- Set if a serializer failed. -/
  serialization : Option SerializationMark := none

namespace HandlerError

/-- The names that no property of an error may take in a reply. -/
def reserved : List String :=
  ["stack", "name", "statusCode", "status", "code", "message", "error", "serialization",
    "validation", "validationContext"]

/-- Adds a property; one of the same name is replaced in place. -/
def withProperty (e : HandlerError) (key : String) (value : Json) : HandlerError :=
  { e with properties := Table.insert key value e.properties }

def ofSerialize (e : SerializeError) (mark : Option SerializationMark) : HandlerError :=
  { message := e.message, serialization := mark }

def fixedMembers (e : HandlerError) (status : Nat) : Table String Json :=
  let body := Table.insert "statusCode" (.nat status) []
  let body := match e.code with
    | some code => Table.insert "code" (.string code) body
    | none => body
  let body := Table.insert "error" (.string (Reply.reasonPhrase status)) body
  Table.insert "message" (.string e.message) body

/-- What clients see of an error that is sent with a status. -/
def projection (e : HandlerError) (status : Nat) : Json :=
  .object (Table.insertAll (e.properties.filter fun p => !reserved.contains p.1)
    (e.fixedMembers status))

def text (e : HandlerError) : String := e.name ++ ": " ++ e.message

/-- The status under which an error is sent: its own if that is an error status, else that of
the reply, else 500. -/
def statusFor (e : HandlerError) (replyStatus : Nat) : Nat :=
  match e.status with
  | some status =>
      if 400 ≤ status then status else if 400 ≤ replyStatus then replyStatus else 500
  | none => if 400 ≤ replyStatus then replyStatus else 500

end HandlerError

/-- What is sent in place of an error. -/
structure ErrorReply where
  status : Nat
  body : Json

/-- Maps an error and the status of the reply to what is sent. -/
abbrev ErrorHandler := HandlerError → Nat → ErrorReply

def ErrorHandler.default : ErrorHandler := fun e replyStatus =>
  { status := e.statusFor replyStatus, body := e.projection (e.statusFor replyStatus) }

end ReplySchema
