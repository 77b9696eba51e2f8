/-! # Blank characters and trimming

Option names, media types, status keys and numeric strings are read after the
blanks around them are cut off.  "Blank" is the Unicode property `White_Space`:
the ASCII spaces and line breaks, the next-line control, the no-break space and
the wider typographic spaces.  It is larger than the set that `Char.isWhitespace`
knows, so the table stands here, with trimming on lists (where the laws live)
and on strings.
-/

set_option autoImplicit false

namespace ReplySchema.Text

def isBlank (c : Char) : Bool :=
  let n := c.toNat
  (0x09 ≤ n && n ≤ 0x0D) || n == 0x20 || n == 0x85 || n == 0xA0 || n == 0x1680 ||
    (0x2000 ≤ n && n ≤ 0x200A) || n == 0x2028 || n == 0x2029 || n == 0x202F ||
    n == 0x205F || n == 0x3000

/-- Cuts the longest tail of elements with the property `p`. -/
def dropEndWhile {α : Type} (p : α → Bool) (xs : List α) : List α :=
  (xs.reverse.dropWhile p).reverse

/-- Cuts the longest head and the longest tail of elements with the property `p`. -/
def stripWhile {α : Type} (p : α → Bool) (xs : List α) : List α :=
  dropEndWhile p (xs.dropWhile p)

theorem dropEndWhile_of_last {α : Type} {p : α → Bool} {xs : List α} {x : α}
    (h : p x = false) : dropEndWhile p (xs ++ [x]) = xs ++ [x] := by
  simp [dropEndWhile, h]

def trim (s : String) : String := String.ofList (stripWhile isBlank s.toList)

def allBlank (s : String) : Bool := s.toList.all isBlank

/-- The text with the ASCII capitals made small; all other characters stay. -/
def lower (s : String) : String := String.ofList (s.toList.map Char.toLower)

/-- The text with the ASCII small letters made capitals; all other characters stay. -/
def upper (s : String) : String := String.ofList (s.toList.map Char.toUpper)

/-- Whether two texts differ at most in the case of ASCII letters. -/
def sameIgnoringCase (a b : String) : Bool := lower a == lower b

/-- The part before the first `c`, and the part behind it if there is a `c`. -/
def cutAt (c : Char) : List Char → List Char × Option (List Char)
  | [] => ([], none)
  | d :: rest =>
      if d = c then ([], some rest)
      else ((d :: (cutAt c rest).1), (cutAt c rest).2)

/-- Cutting loses only the mark: the parts and the mark between them give the text back. -/
theorem cutAt_append {c : Char} {s a b : List Char} (h : cutAt c s = (a, some b)) :
    s = a ++ c :: b := by
  induction s generalizing a b with
  | nil => simp [cutAt] at h
  | cons d rest ih =>
      by_cases hd : d = c
      · simp [cutAt, hd] at h
        simp [hd, ← h.1, h.2]
      · simp only [cutAt, if_neg hd, Prod.mk.injEq] at h
        obtain ⟨rfl, h2⟩ := h
        have := ih (a := (cutAt c rest).1) (b := b) (by rw [← h2])
        simpa using this

/-- The pieces between the marks `c`; there is one more piece than marks. -/
def splitAll (c : Char) : List Char → List (List Char)
  | [] => [[]]
  | d :: rest =>
      if d = c then [] :: splitAll c rest
      else
        match splitAll c rest with
        | piece :: more => (d :: piece) :: more
        | [] => [[d]]

def joinWith (sep : String) : List String → String
  | [] => ""
  | [s] => s
  | s :: rest => s ++ sep ++ joinWith sep rest

end ReplySchema.Text
