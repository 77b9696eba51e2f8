import ReplySchema.Uri.Basic

/-! # Schema identifiers and references

A document is known by an identifier: a web address in normal form, or a bare name.
A reference is an identifier with an optional fragment behind `#`.  An absolute
reference stands for itself, a relative one is joined to the identifier of the
document that holds it if that is an address, and a bare name stays a bare name.
-/

set_option autoImplicit false

namespace ReplySchema.Identifier

/-- A reference without its fragment, and the fragment, empty if there is none. -/
def split (reference : String) : String × String :=
  let (uri, fragment) := Text.cutAt '#' reference.toList
  (String.ofList uri, String.ofList (fragment.getD []))

/-- The text without blanks at the ends and without trailing `#`. -/
def bare (id : String) : String :=
  String.ofList (Text.dropEndWhile (· == '#') (Text.trim id).toList)

/-- The normal form under which a document is stored. -/
def canonical (id : String) : String :=
  match Uri.read? (bare id) with
  | some u => u.withoutFragment.text
  | none => bare id

/-- The identifier that a reference means inside a document of identifier `base`. -/
def join (base : Option String) (uri : String) : String :=
  match Uri.read? uri with
  | some u => u.withoutFragment.text
  | none =>
      match (base.bind Uri.read?).bind (Uri.join? · uri) with
      | some u => u.withoutFragment.text
      | none => canonical uri

end ReplySchema.Identifier
