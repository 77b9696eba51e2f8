import ReplySchema.Proofs.Json.Every

/-! # The grammar of JSON text

What a JSON text is, as relations between characters and what they stand for: a row of
characters *spells* a written value.  The rules are those of the format, blanks, letter
escapes and surrogate pairs included, so they allow more than the compact texts that are
written here.

Main statement: the compact text of a written value spells it (`spells_chars`), as soon as
the texts of its numbers are in the grammar of numbers.
-/

set_option autoImplicit false

namespace ReplySchema.Grammar

/-! ## §1  Numbers -/

def IsDigits (cs : List Char) : Prop := cs ≠ [] ∧ ∀ c ∈ cs, c.isDigit = true

/-- Digits without a zero in front, or a zero alone. -/
def IsWhole (cs : List Char) : Prop := cs = ['0'] ∨ IsDigits cs ∧ cs.head? ≠ some '0'

/-- Nothing, or a point and digits. -/
def IsFraction (cs : List Char) : Prop := cs = [] ∨ ∃ ds, IsDigits ds ∧ cs = '.' :: ds

/-- Nothing, or the letter of the exponent, perhaps a sign, and digits. -/
def IsExponent (cs : List Char) : Prop :=
  cs = [] ∨ ∃ letter ∈ ['e', 'E'], ∃ sign ∈ [[], ['+'], ['-']], ∃ ds, IsDigits ds ∧
    cs = letter :: sign ++ ds

def IsNumber (cs : List Char) : Prop :=
  ∃ sign ∈ [[], ['-']], ∃ whole fraction exponent,
    IsWhole whole ∧ IsFraction fraction ∧ IsExponent exponent ∧
      cs = sign ++ whole ++ fraction ++ exponent

/-! ## §2  Strings -/

def hexValue? (c : Char) : Option Nat :=
  ("0123456789abcdef".toList.findIdx? (· == c)) <|> ("0123456789ABCDEF".toList.findIdx? (· == c))

/-- Whether four hexadecimal digits have a value. -/
def IsHex4 (cs : List Char) (n : Nat) : Prop :=
  ∃ a b c d i j k l, cs = [a, b, c, d] ∧ hexValue? a = some i ∧ hexValue? b = some j ∧
    hexValue? c = some k ∧ hexValue? d = some l ∧ n = ((i * 16 + j) * 16 + k) * 16 + l

def letterEscapes : List (Char × Char) :=
  [('"', '"'), ('\\', '\\'), ('/', '/'), ('b', '\x08'), ('f', '\x0c'), ('n', '\n'), ('r', '\r'),
    ('t', '\t')]

/-- How one character stands between quotes. -/
inductive SpellsChar : List Char → Char → Prop where
  | plain (c : Char) (hcontrol : 0x20 ≤ c.toNat) (hquote : c ≠ '"') (hslash : c ≠ '\\') :
      SpellsChar [c] c
  | letter (letter c : Char) (h : (letter, c) ∈ letterEscapes) : SpellsChar ['\\', letter] c
  | unicode (ds : List Char) (n : Nat) (h : IsHex4 ds n) (hvalid : n.isValidChar) :
      SpellsChar ('\\' :: 'u' :: ds) (Char.ofNat n)
  | pair (ds es : List Char) (n m : Nat) (hn : IsHex4 ds (0xD800 + n)) (hm : IsHex4 es (0xDC00 + m))
      (hnlt : n < 0x400) (hmlt : m < 0x400) :
      SpellsChar ('\\' :: 'u' :: ds ++ '\\' :: 'u' :: es) (Char.ofNat (0x10000 + n * 0x400 + m))

/-- How characters stand between quotes. -/
inductive SpellsChars : List Char → List Char → Prop where
  | nil : SpellsChars [] []
  | cons {cs more : List Char} {c : Char} {rest : List Char} (hc : SpellsChar cs c)
      (hrest : SpellsChars more rest) : SpellsChars (cs ++ more) (c :: rest)

def SpellsString (cs : List Char) (s : String) : Prop :=
  ∃ body, SpellsChars body s.toList ∧ cs = '"' :: body ++ ['"']

/-! ## §3  Values -/

/-- Blanks between the parts of a text. -/
def IsBlank (cs : List Char) : Prop := ∀ c ∈ cs, c ∈ [' ', '\t', '\n', '\r']

mutual
/-- How a value stands in a text, without blanks around it. -/
inductive Spells : List Char → Written → Prop where
  | null : Spells ['n', 'u', 'l', 'l'] .null
  | true : Spells ['t', 'r', 'u', 'e'] (.bool Bool.true)
  | false : Spells ['f', 'a', 'l', 's', 'e'] (.bool Bool.false)
  | number {cs : List Char} (h : IsNumber cs) : Spells cs (.number cs)
  | string {cs : List Char} {s : String} (h : SpellsString cs s) : Spells cs (.string s)
  | noItems {blanks : List Char} (h : IsBlank blanks) : Spells ('[' :: blanks ++ [']']) (.array [])
  | items {cs : List Char} {xs : List Written} (h : SpellsItems cs xs) :
      Spells ('[' :: cs ++ [']']) (.array xs)
  | noMembers {blanks : List Char} (h : IsBlank blanks) :
      Spells ('{' :: blanks ++ ['}']) (.object [])
  | members {cs : List Char} {ms : List (String × Written)} (h : SpellsMembers cs ms) :
      Spells ('{' :: cs ++ ['}']) (.object ms)

/-- How one or more items stand in an array. -/
inductive SpellsItems : List Char → List Written → Prop where
  | one {before cs after : List Char} {x : Written} (hbefore : IsBlank before)
      (h : Spells cs x) (hafter : IsBlank after) : SpellsItems (before ++ cs ++ after) [x]
  | more {before cs after rest : List Char} {x : Written} {xs : List Written}
      (hbefore : IsBlank before) (h : Spells cs x) (hafter : IsBlank after)
      (hrest : SpellsItems rest xs) :
      SpellsItems (before ++ cs ++ after ++ ',' :: rest) (x :: xs)

/-- How one or more members stand in an object. -/
inductive SpellsMembers : List Char → List (String × Written) → Prop where
  | one {before ks between cs : List Char} {key : String} {x : Written} (hbefore : IsBlank before)
      (hkey : SpellsString ks key) (hbetween : IsBlank between)
      (h : SpellsItems cs [x]) : SpellsMembers (before ++ ks ++ between ++ ':' :: cs) [(key, x)]
  | more {before ks between cs rest : List Char} {key : String} {x : Written}
      {ms : List (String × Written)} (hbefore : IsBlank before) (hkey : SpellsString ks key)
      (hbetween : IsBlank between) (h : SpellsItems cs [x]) (hrest : SpellsMembers rest ms) :
      SpellsMembers (before ++ ks ++ between ++ ':' :: cs ++ ',' :: rest) ((key, x) :: ms)
end

/-- A text that holds one value and nothing else. -/
def SpellsText (text : String) (w : Written) : Prop :=
  ∃ before cs after, IsBlank before ∧ Spells cs w ∧ IsBlank after ∧
    text.toList = before ++ cs ++ after

/-! ## §4  Compact texts -/

theorem isBlank_nil : IsBlank [] := by
  intro c hc
  cases hc

theorem isHex4_control {n : Nat} (h : n < 0x20) :
    IsHex4 ['0', '0', Written.hexDigit (n / 16), Written.hexDigit n] n := by
  have hdigits : ∀ n < 0x20, hexValue? (Written.hexDigit (n / 16)) = some (n / 16) ∧
      hexValue? (Written.hexDigit n) = some (n % 16) := by decide
  obtain ⟨hhigh, hlow⟩ := hdigits n h
  refine ⟨_, _, _, _, 0, 0, n / 16, n % 16, rfl, by decide, by decide, hhigh, hlow, ?_⟩
  omega

theorem spellsChar_escapeChar (c : Char) : SpellsChar (Written.escapeChar c) c := by
  have hletter : ∀ letter, (letter, c) ∈ letterEscapes → SpellsChar ['\\', letter] c :=
    fun letter h => .letter letter c h
  unfold Written.escapeChar
  split
  · next h => exact hletter '"' (by rw [h]; decide)
  · next hquote =>
      split
      · next h => exact hletter '\\' (by rw [h]; decide)
      · next hslash =>
          split
          · next h => exact hletter 'b' (by rw [h]; decide)
          split
          · next h => exact hletter 'f' (by rw [h]; decide)
          split
          · next h => exact hletter 'n' (by rw [h]; decide)
          split
          · next h => exact hletter 'r' (by rw [h]; decide)
          split
          · next h => exact hletter 't' (by rw [h]; decide)
          split
          · next hcontrol =>
              have hspelled := SpellsChar.unicode _ c.toNat (isHex4_control hcontrol) c.valid
              rwa [Char.ofNat_toNat] at hspelled
          · next hcontrol => exact .plain c (not_lt.mp hcontrol) hquote hslash

theorem spellsString_quoteChars (s : String) : SpellsString (Written.quoteChars s) s := by
  refine ⟨s.toList.flatMap Written.escapeChar, ?_, rfl⟩
  induction s.toList with
  | nil => exact .nil
  | cons c rest ih =>
      rw [List.flatMap_cons]
      exact .cons (spellsChar_escapeChar c) ih

theorem SpellsItems.of_spells {cs : List Char} {x : Written} (h : Spells cs x) :
    SpellsItems cs [x] := by
  have hone := SpellsItems.one isBlank_nil h isBlank_nil
  rwa [List.nil_append, List.append_nil] at hone

theorem spellsItems_chars : ∀ (rest : List Written) (x : Written),
    (∀ y ∈ x :: rest, Spells y.chars y) →
    ∃ cs, SpellsItems cs (x :: rest) ∧ x.chars ++ Written.itemsTail rest = cs ++ [']']
  | [], x, h => ⟨x.chars, .of_spells (h x List.mem_cons_self), rfl⟩
  | y :: rest, x, h => by
      obtain ⟨cs, hcs, htail⟩ :=
        spellsItems_chars rest y fun z hz => h z (List.mem_cons_of_mem _ hz)
      refine ⟨x.chars ++ ',' :: cs, ?_, ?_⟩
      · have hmore := SpellsItems.more isBlank_nil (h x List.mem_cons_self) isBlank_nil hcs
        rwa [List.nil_append, List.append_nil] at hmore
      · rw [Written.itemsTail, List.cons_append, htail, List.append_assoc, List.cons_append]

theorem spellsMembers_chars : ∀ (rest : List (String × Written)) (key : String) (x : Written),
    (∀ m ∈ (key, x) :: rest, Spells m.2.chars m.2) →
    ∃ cs, SpellsMembers cs ((key, x) :: rest) ∧
      Written.quoteChars key ++ ':' :: x.chars ++ Written.membersTail rest = cs ++ ['}']
  | [], key, x, h => by
      have hone := SpellsMembers.one isBlank_nil (spellsString_quoteChars key) isBlank_nil
        (.of_spells (h (key, x) List.mem_cons_self))
      rw [List.nil_append, List.append_nil] at hone
      exact ⟨_, hone, rfl⟩
  | (key', y) :: rest, key, x, h => by
      obtain ⟨cs, hcs, htail⟩ :=
        spellsMembers_chars rest key' y fun z hz => h z (List.mem_cons_of_mem _ hz)
      have hmore := SpellsMembers.more isBlank_nil (spellsString_quoteChars key) isBlank_nil
        (.of_spells (h (key, x) List.mem_cons_self)) hcs
      rw [List.nil_append, List.append_nil] at hmore
      refine ⟨_, hmore, ?_⟩
      rw [Written.membersTail, List.cons_append, List.cons_append, htail]
      simp only [List.append_assoc, List.cons_append]

/-- **The compact text of a written value spells it.** -/
theorem spells_chars {names : List String → Prop} {w : Written} (h : w.Every IsNumber names) :
    Spells w.chars w := by
  induction h with
  | null => exact .null
  | bool b =>
      cases b with
      | true => exact .true
      | false => exact .false
  | number h => exact .number h
  | string s => exact .string (spellsString_quoteChars s)
  | @array items _ ih =>
      cases items with
      | nil => exact .noItems isBlank_nil
      | cons x rest =>
          obtain ⟨cs, hcs, htail⟩ := spellsItems_chars rest x ih
          rw [Written.chars, List.cons_append, htail]
          exact .items hcs
  | @object members _ _ ih =>
      cases members with
      | nil => exact .noMembers isBlank_nil
      | cons m rest =>
          obtain ⟨key, x⟩ := m
          obtain ⟨cs, hcs, htail⟩ := spellsMembers_chars rest key x ih
          rw [Written.chars, List.cons_append, List.cons_append, htail]
          exact .members hcs

end ReplySchema.Grammar
