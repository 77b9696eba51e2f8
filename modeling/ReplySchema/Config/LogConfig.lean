import ReplySchema.Config.EngineConfig
import ReplySchema.Number.Decimal

/-! # Configuration of the log

The settings of the log are read from variables too.  The level is kept as it was
given and understood when it is asked for: a word or a number from 1, the gravest, to
5; anything else counts as `INFO`.
-/

set_option autoImplicit false

namespace ReplySchema

-- Powers are those of the core library, whatever else is imported.
attribute [local instance (high)] instPowNat

/-- How grave a message must be to be logged. -/
inductive LogLevel where
  | error
  | warn
  | info
  | debug
  | trace
deriving DecidableEq, Repr

namespace LogLevel

def all : List LogLevel := [error, warn, info, debug, trace]

/-- The name of a level in capitals. -/
def name : LogLevel → String
  | error => "ERROR"
  | warn => "WARN"
  | info => "INFO"
  | debug => "DEBUG"
  | trace => "TRACE"

/-- Reads a number from 1 to 5, or a name in any case. -/
def read? (given : String) : Option LogLevel :=
  let numbered := do
    let n ← Decimal.boundedOf? (2 ^ (64 : Nat) - 1) given.toList
    if n = 0 then none else all[n - 1]?
  numbered <|> all.find? fun l => Text.sameIgnoringCase l.name given

end LogLevel

/-- How lines of the log are written. -/
inductive LogFormat where
  | json
  | pretty
deriving DecidableEq, Repr

/-- Anything but `pretty` means JSON. -/
def LogFormat.ofName (given : String) : LogFormat :=
  if OptionError.normalized given = "pretty" then .pretty else .json

structure LogConfig where
  logLevel : String := "info"
  format : LogFormat := .json
  async : Bool := false
  /-- Directives for single targets. -/
  targetFilter : Option String := none
deriving DecidableEq, Repr

namespace LogConfig

/-- Reads `true` or `false`, with blanks around it. -/
def flag? (given : String) : Option Bool :=
  match Text.trim given with
  | "true" => some true
  | "false" => some false
  | _ => none

def ofVariables (lookup : Variables) : LogConfig where
  logLevel := (lookup "BRRTS_LOG_LEVEL").getD "info"
  format := ((lookup "BRRTS_LOG_FORMAT").map LogFormat.ofName).getD .json
  async := ((lookup "BRRTS_LOG_ASYNC").bind flag?).getD false
  targetFilter := (lookup "BRRTS_LOG_TARGET_FILTER").filter fun s => !Text.allBlank s

def pretty (level : String) : LogConfig := { logLevel := level, format := .pretty }

def level (c : LogConfig) : LogLevel := (LogLevel.read? (Text.trim c.logLevel)).getD .info

end LogConfig

end ReplySchema
