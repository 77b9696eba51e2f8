import ReplySchema.Text.Blank

/-! # Options that are chosen by name

An option has a few known names, read in any case and with blanks around them.  A text
that is none of them is an error that tells what was expected.
-/

set_option autoImplicit false

namespace ReplySchema

/-- A text that is no known name of an option. -/
structure OptionError where
  /-- What the option is about. -/
  option : String
  given : String
  /-- The known names. -/
  known : List String
deriving DecidableEq, Repr

namespace OptionError

def normalized (given : String) : String := Text.lower (Text.trim given)

def message (e : OptionError) : String :=
  "invalid " ++ e.option ++ " '" ++ normalized e.given ++ "' (expected " ++
    Text.joinWith "|" e.known ++ ")"

end OptionError

def chooseByName {α : Type} (option : String) (names : List (String × α)) (given : String) :
    Except OptionError α :=
  match names.find? fun p => p.1 == OptionError.normalized given with
  | some p => .ok p.2
  | none => .error ⟨option, given, names.map (·.1)⟩

end ReplySchema
