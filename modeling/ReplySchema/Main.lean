import ReplySchema.Command.Arguments
import ReplySchema.Command.Output

/-! The program: reads the command line, the environment and the manifest, and prints what the
command answers. -/

set_option autoImplicit false

namespace ReplySchema.Program

def usage : String :=
  "usage: brrts [settings] check|routes -m <manifest>
       brrts [settings] render -m <manifest> -u <url> --value <json>
             [--method <method>] [-s <status>] [--content-type <type>]
settings: --log-level <level>, --rounding <rounding>, --content-fallthrough <stop|next>"

def complaint : UsageError → String
  | .help => usage
  | .nothingGiven => usage
  | .noCommand => "a command is missing"
  | .unknownCommand => "unknown command"
  | .unknownArgument => "unknown argument"
  | .missingOption => "a required option is missing"
  | .missingValue => "an option has no value"
  | .needlessValue => "an option takes no value"
  | .wrongValue => "an option has an invalid value"
  | .repeatedOption => "an option is given twice"

def variableNames : List String :=
  ["BRRTS_LOG_LEVEL", "BRRTS_SERIALIZER_CACHE", "BRRTS_INTEGER_ROUNDING",
    "BRRTS_CONTENT_FALLTHROUGH"]

def environment : IO Variables := do
  let set ← variableNames.filterMapM fun name => do
    return (← IO.getEnv name).map fun value => (name, value)
  return fun name => Table.find? name set

/-- The content of a file, if it is a readable text. -/
def content? (path : String) : IO (Option String) := do
  match ← (IO.FS.readFile path).toBaseIO with
  | .ok text => return some text
  | .error _ => return none

/-- The exit code for what the program cannot do. -/
def failure : UInt32 := 1

/-- The exit code for a command line that is refused. -/
def misuse : UInt32 := 2

end ReplySchema.Program

open ReplySchema in
def main (arguments : List String) : IO UInt32 := do
  let environment ← Program.environment
  match Arguments.read environment arguments with
  | .error .help =>
      IO.println Program.usage
      return 0
  | .error error =>
      IO.eprintln ("error: " ++ Program.complaint error)
      return Program.misuse
  | .ok invocation =>
      let content ← Program.content? invocation.command.manifest
      match invocation.command.output (invocation.config environment) content with
      | .ok text =>
          IO.print text
          return 0
      | .error error =>
          IO.eprintln ("Error: " ++ error.message)
          return Program.failure
