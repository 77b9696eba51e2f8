import ReplySchema.Unicode.Age
import ReplySchema.Unicode.Binary
import ReplySchema.Unicode.Break
import ReplySchema.Unicode.Script

/-! # Properties by name

A property is named by a single name, which is looked for among the binary properties,
then among the general categories, then among the scripts; or by the name of a kind and
that of a value.  Case, blanks, hyphens, underscores and a leading `is` do not count,
and neither do characters beyond ASCII.
-/

set_option autoImplicit false

namespace ReplySchema.Unicode

/-- The loose form of a name that somebody wrote. -/
def writtenName (name : String) : String :=
  let ascii := String.ofList (name.toList.filter fun c => c.toNat < 0x80)
  match name.toList with
  | i :: s :: rest =>
      if i.toLower = 'i' ∧ s.toLower = 's' then
        let behind := looseName (String.ofList (rest.filter fun c => c.toNat < 0x80))
        if behind = "c" then "isc" else behind
      else looseName ascii
  | _ => looseName ascii

/-- The names that are read as a category although properties share them. -/
def categoriesFirst : List String := ["cf", "sc", "lc"]

/-- The code points of a property, by a single name. -/
def property? (written : String) : Option Ranges :=
  let name := writtenName written
  (if categoriesFirst.contains name then none else binary? name) <|> category? name <|>
    script? name

def propertyValue? (kind value : String) : Option Ranges :=
  let value := writtenName value
  match writtenName kind with
  | "gc" | "generalcategory" => category? value
  | "sc" | "script" => script? value
  | "scx" | "scriptextensions" => scriptExtension? value
  | "age" => age? value
  | "gcb" | "graphemeclusterbreak" => breakClass? graphemeBreakRows value
  | "wb" | "wordbreak" => breakClass? wordBreakRows value
  | "sb" | "sentencebreak" => breakClass? sentenceBreakRows value
  | _ => none

end ReplySchema.Unicode
