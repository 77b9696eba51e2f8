import ReplySchema.Json.Basic
import ReplySchema.Text.Blank

/-! # JSON pointers

A pointer is a text: empty for the root, else a slash and a token for each step,
where `~` and `/` inside a token are written `~0` and `~1`.  A step into an array is
an index without sign or leading zeros.
-/

set_option autoImplicit false

namespace ReplySchema.Pointer

/-- The characters of a token with `~` and `/` escaped. -/
def escapeChars : List Char → List Char
  | [] => []
  | '~' :: rest => '~' :: '0' :: escapeChars rest
  | '/' :: rest => '~' :: '1' :: escapeChars rest
  | c :: rest => c :: escapeChars rest

def unescapeChars : List Char → List Char
  | '~' :: '0' :: rest => '~' :: unescapeChars rest
  | '~' :: '1' :: rest => '/' :: unescapeChars rest
  | c :: rest => c :: unescapeChars rest
  | [] => []

/-- Escaping loses nothing. -/
theorem unescapeChars_escapeChars (s : List Char) : unescapeChars (escapeChars s) = s := by
  fun_induction escapeChars s with
  | case1 => simp [unescapeChars]
  | case2 rest ih => simp [unescapeChars, ih]
  | case3 rest ih => simp [unescapeChars, ih]
  | case4 c rest h1 h2 ih =>
      rw [unescapeChars.eq_def]
      split
      · rename_i heq; simp only [List.cons.injEq] at heq; exact absurd heq.1 h1
      · rename_i heq; simp only [List.cons.injEq] at heq; exact absurd heq.1 h1
      · rename_i heq; simp only [List.cons.injEq] at heq; obtain ⟨rfl, rfl⟩ := heq; rw [ih]
      · rename_i heq; simp at heq

def escape (token : String) : String := String.ofList (escapeChars token.toList)

/-- The pointer of a child: a slash and the escaped token behind the parent's pointer. -/
def child (parent token : String) : String := parent ++ "/" ++ escape token

def item (parent : String) (index : Nat) : String := parent ++ "/" ++ Decimal.ofNat index

def index? : List Char → Option Nat
  | ['0'] => some 0
  | '0' :: _ => none
  | cs => Decimal.natOf? cs

def step? (token : List Char) : Json → Option Json
  | .object members => Table.find? (String.ofList token) members
  | .array items => (index? token).bind fun i => items[i]?
  | _ => none

/-- The steps of a pointer: none for the empty one; a pointer that does not start with a
slash is not one. -/
def tokens? (pointer : String) : Option (List (List Char)) :=
  match pointer.toList with
  | [] => some []
  | '/' :: rest => some ((Text.splitAll '/' rest).map unescapeChars)
  | _ => none

def walk? : List (List Char) → Json → Option Json
  | [], v => some v
  | t :: rest, v => (step? t v).bind (walk? rest)

end ReplySchema.Pointer

namespace ReplySchema.Json

def at? (v : Json) (pointer : String) : Option Json :=
  (Pointer.tokens? pointer).bind fun ts => Pointer.walk? ts v

end ReplySchema.Json
