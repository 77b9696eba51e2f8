import ReplySchema.Command.Basic

/-! # Reading the command line

The arguments stand on two levels: the program's own options, then the name of a command
and the options of that command.  The settings may be given on both levels, and the
command's win.

An option is written `--name value`, `--name=value`, or by its letter: `-n value`,
`-nvalue`, `-n=value`.  It may be given once on each level.  A value may not begin with
a dash unless it is joined to its option.  Behind `--` nothing is an option or a command
any more.

A value is looked at when the next option begins or its level ends, not before: the
options of a command are read to their end before the value of the last option in front
of the command is looked at.
-/

set_option autoImplicit false

namespace ReplySchema

-- Powers are those of the core library, whatever else is imported.
attribute [local instance (high)] instPowNat

/-- Why a command line is refused. -/
inductive UsageError where
  /-- Help was asked for. -/
  | help
  /-- Nothing was asked for, so help is shown. -/
  | nothingGiven
  | noCommand
  | unknownCommand
  | unknownArgument
  | missingOption
  /-- An option without its value. -/
  | missingValue
  /-- A value for an option that takes none. -/
  | needlessValue
  /-- A value that the option cannot have. -/
  | wrongValue
  | repeatedOption
deriving DecidableEq, Repr

inductive OptionName where
  | logLevel
  | rounding
  | contentFallthrough
  | manifest
  | method
  | url
  | status
  | contentType
  | value
deriving DecidableEq, Repr

inductive CommandName where
  | check
  | routes
  | render
deriving DecidableEq, Repr

namespace OptionName

def long : OptionName → String
  | logLevel => "log-level"
  | rounding => "rounding"
  | contentFallthrough => "content-fallthrough"
  | manifest => "manifest"
  | method => "method"
  | url => "url"
  | status => "status"
  | contentType => "content-type"
  | value => "value"

def letter? : OptionName → Option Char
  | manifest => some 'm'
  | url => some 'u'
  | status => some 's'
  | _ => none

def settings : List OptionName := [logLevel, rounding, contentFallthrough]

end OptionName

namespace CommandName

def all : List CommandName := [check, routes, render]

def text : CommandName → String
  | check => "check"
  | routes => "routes"
  | render => "render"

def needed : CommandName → List OptionName
  | check => [.manifest]
  | routes => [.manifest]
  | render => [.manifest, .url, .value]

def options : CommandName → List OptionName
  | check => OptionName.settings ++ [.manifest]
  | routes => OptionName.settings ++ [.manifest]
  | render => OptionName.settings ++ [.manifest, .method, .url, .status, .contentType, .value]

def read? (name : String) : Option CommandName := all.find? fun c => c.text == name

end CommandName

/-- The values that were given on one level, as they were written. -/
abbrev Given := Table OptionName String

namespace Given

def rounding? (text : String) : Option Rounding := (Rounding.read text).toOption

def fallthrough? (text : String) : Option Response.Fallthrough :=
  (Response.Fallthrough.read text).toOption

/-- The status code that a text denotes: an integer of 16 bits, with any sign and leading
zeros. -/
def status? (text : String) : Option Nat := do
  let (negative, digits) := Decimal.takeSign text.toList
  let n ← Decimal.natOf? digits
  if n < 2 ^ (16 : Nat) && (!negative || n == 0) then some n else none

def add (g : Given) (o : OptionName) (text : String) : Except UsageError Given :=
  if Table.contains o g then .error .repeatedOption
  else
    let fits := match o with
      | .rounding => (rounding? text).isSome
      | .contentFallthrough => (fallthrough? text).isSome
      | .status => (status? text).isSome
      | _ => true
    if o == .manifest && text.isEmpty then .error .missingValue
    else if fits then .ok (Table.insert o text g)
    else .error .wrongValue

def text? (g : Given) (o : OptionName) : Option String := Table.find? o g

end Given

/-- The last option, whose value is not looked at yet; nothing stands for a value that is still
to come. -/
abbrev Waiting := Option (OptionName × Option String)

/-- Looks at the value of the last option. -/
def Given.settle (g : Given) : Waiting → Except UsageError Given
  | none => .ok g
  | some (_, none) => .error .missingValue
  | some (o, some text) => g.add o text

namespace Arguments

structure Level where
  options : List OptionName
  /-- Whether a command is expected. -/
  commands : Bool

def outer : Level := ⟨OptionName.settings, true⟩

def inner (command : CommandName) : Level := ⟨command.options, false⟩

/-- What was read on a level. -/
structure Outcome where
  given : Given
  waiting : Waiting
  /-- The command and the arguments behind its name. -/
  command : Option (CommandName × List String) := none

/-- The option with which an argument begins, and the value that is joined to it. -/
inductive Flag where
  | option (o : OptionName) (value : Option String)
  | help (value : Option String)
  | unknown

def longFlag (level : Level) (body : List Char) : Flag :=
  let (name, value) := Text.cutAt '=' body
  let name := String.ofList name
  let value := value.map String.ofList
  if name == "help" then .help value
  else
    match level.options.find? fun o => o.long == name with
    | some o => .option o value
    | none => .unknown

def shortFlag (level : Level) (letter : Char) (body : List Char) : Flag :=
  if letter == 'h' then .help none
  else
    match level.options.find? fun o => o.letter? == some letter with
    | none => .unknown
    | some o =>
        .option o <| match body with
          | [] => none
          | '=' :: value => some (String.ofList value)
          | value => some (String.ofList value)

/-- The option with which an argument begins, if it begins with a dash and is more than that. -/
def flag? (level : Level) (argument : String) : Option Flag :=
  match argument.toList with
  | '-' :: '-' :: body => some (longFlag level body)
  | '-' :: letter :: body => some (shortFlag level letter body)
  | _ => none

/-- Whether an argument is the name of a command, `help` included. -/
def isCommand (argument : String) : Bool :=
  argument == "help" || (CommandName.read? argument).isSome

def stray (level : Level) (behindDashes : Bool) (argument : String) : UsageError :=
  if level.commands && !(behindDashes && isCommand argument) then .unknownCommand
  else .unknownArgument

def helpOn : List String → UsageError
  | [] => .help
  | [name] => if isCommand name then .help else .unknownCommand
  | _ => .unknownCommand

def readBehindDashes (level : Level) (given : Given) (waiting : Waiting) :
    List String → Except UsageError Outcome
  | [] => .ok { given, waiting }
  | argument :: _ => .error (stray level true argument)

def readLevel (level : Level) (given : Given) (waiting : Waiting) :
    List String → Except UsageError Outcome
  | [] => .ok { given, waiting }
  | argument :: rest =>
      let awaited : Option OptionName := match waiting with
        | some (o, none) => some o
        | _ => none
      if level.commands && awaited.isNone && argument == "help" then .error (helpOn rest)
      else
        match if level.commands && awaited.isNone then CommandName.read? argument else none with
        | some command => .ok { given, waiting, command := some (command, rest) }
        | none =>
            if argument == "--" then readBehindDashes level given waiting rest
            else
              match flag? level argument, awaited with
              | some (.option o (some value)), _ => do
                  let given ← (← given.settle waiting).add o value
                  readLevel level given none rest
              | some (.option o none), _ => do
                  readLevel level (← given.settle waiting) (some (o, none)) rest
              | some (.help none), _ => do
                  let _ ← given.settle waiting
                  throw .help
              | some (.help (some _)), _ => .error .needlessValue
              | some .unknown, _ => .error .unknownArgument
              | none, some o => readLevel level given (some (o, some argument)) rest
              | none, none => .error (stray level false argument)

def readCommand (command : CommandName) (arguments : List String) :
    Except UsageError Given := do
  let read ← readLevel (inner command) [] none arguments
  let given ← read.given.settle read.waiting
  if command.needed.all fun o => Table.contains o given then return given
  else throw .missingOption

def commandOf (command : CommandName) (given : Given) : Command :=
  let text (o : OptionName) : String := (given.text? o).getD ""
  match command with
  | .check => .check (text .manifest)
  | .routes => .routes (text .manifest)
  | .render =>
      .render (text .manifest) {
        method := (given.text? .method).getD "GET"
        url := text .url
        status := ((given.text? .status).bind Given.status?).getD 200
        contentType := given.text? .contentType
        value := text .value }

/-- Reads a command line.  The log level may come from the environment. -/
def read (environment : Variables) (arguments : List String) : Except UsageError Invocation := do
  let environmentLevel := environment "BRRTS_LOG_LEVEL"
  let read ← readLevel outer [] none arguments
  match read.command with
  | none =>
      let given ← read.given.settle read.waiting
      if given.isEmpty && environmentLevel.isNone then throw .nothingGiven
      else throw .noCommand
  | some (name, rest) =>
      let own ← readCommand name rest
      let given ← read.given.settle read.waiting
      let setting (o : OptionName) : Option String := own.text? o <|> given.text? o
      return {
        logLevel := (setting .logLevel <|> environmentLevel).getD "warn"
        rounding := (setting .rounding).bind Given.rounding?
        contentFallthrough := (setting .contentFallthrough).bind Given.fallthrough?
        command := commandOf name own }

end Arguments

end ReplySchema
