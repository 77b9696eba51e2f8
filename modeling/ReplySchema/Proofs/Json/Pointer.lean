import ReplySchema.Json.Pointer
import ReplySchema.Proofs.Json.Every
import ReplySchema.Proofs.Number.Text
import ReplySchema.Proofs.Table

/-! # Reading pointers back

A pointer is built by steps, one name or index behind the other, and it is read as a whole: the
text is cut at its slashes and the escapes of each piece are undone.  An escaped name holds no
slash, and escaping loses nothing, so the steps come back as they were (`tokens?_ofPath`),
whatever the names are.  Hence a pointer leads where its steps lead (`at?_ofPath`).
-/

set_option autoImplicit false

namespace ReplySchema

/-! ## §1  Cutting at a mark -/

theorem Text.splitAll_ne_nil (c : Char) (cs : List Char) : Text.splitAll c cs ≠ [] := by
  fun_cases Text.splitAll c cs with
  | case1 => nofun
  | case2 => nofun
  | case3 => nofun
  | case4 => nofun

theorem Text.splitAll_of_notMem {c : Char} {cs : List Char} (h : c ∉ cs) :
    Text.splitAll c cs = [cs] := by
  induction cs with
  | nil => rfl
  | cons d rest ih =>
      rw [List.mem_cons, not_or] at h
      rw [Text.splitAll, if_neg (Ne.symm h.1), ih h.2]

/-- At a mark, the pieces of what stands before it and behind it meet. -/
theorem Text.splitAll_append (c : Char) (front back : List Char) :
    Text.splitAll c (front ++ c :: back) = Text.splitAll c front ++ Text.splitAll c back := by
  induction front with
  | nil => simp [Text.splitAll]
  | cons d rest ih =>
      by_cases hd : d = c
      · simp [Text.splitAll, hd, ih]
      · rw [List.cons_append, Text.splitAll, Text.splitAll, if_neg hd, if_neg hd, ih]
        cases hrest : Text.splitAll c rest with
        | nil => exact absurd hrest (Text.splitAll_ne_nil c rest)
        | cons piece more => rfl

namespace Pointer

/-! ## §2  Tokens -/

theorem slash_notMem_escapeChars (cs : List Char) : '/' ∉ escapeChars cs := by
  fun_induction escapeChars cs with
  | case1 => exact List.not_mem_nil
  | case2 rest ih => simpa using ih
  | case3 rest ih => simpa using ih
  | case4 c rest _ hslash ih => simpa using ⟨Ne.symm hslash, ih⟩

theorem escapeChars_eq_self {cs : List Char} (h : ∀ c ∈ cs, c ≠ '~' ∧ c ≠ '/') :
    escapeChars cs = cs := by
  fun_induction escapeChars cs with
  | case1 => rfl
  | case2 rest ih => exact absurd rfl (h '~' List.mem_cons_self).1
  | case3 rest ih => exact absurd rfl (h '/' List.mem_cons_self).2
  | case4 c rest _ _ ih => rw [ih fun d hd => h d (List.mem_cons_of_mem c hd)]

theorem item_eq_child (parent : String) (index : Nat) :
    item parent index = child parent (Decimal.ofNat index) := by
  have hplain : escapeChars (Decimal.digits index) = Decimal.digits index := by
    refine escapeChars_eq_self fun c hc => ?_
    have hdigit : c.isDigit = true := Decimal.isDigit_of_mem_digits hc
    constructor <;> rintro rfl <;> exact absurd hdigit (by decide)
  unfold item child escape Decimal.ofNat
  rw [String.toList_ofList, hplain]

theorem tokens?_of_slash {pointer : String} {rest : List Char}
    (h : pointer.toList = '/' :: rest) :
    tokens? pointer = some ((Text.splitAll '/' rest).map unescapeChars) := by
  unfold tokens?
  rw [h]
  rfl

theorem tokens?_child {pointer : String} {tokens : List (List Char)}
    (h : tokens? pointer = some tokens) (token : String) :
    tokens? (child pointer token) = some (tokens ++ [token.toList]) := by
  have hchars : (child pointer token).toList =
      pointer.toList ++ '/' :: escapeChars token.toList := by
    simp [child, escape, String.toList_append]
  have hlast : (Text.splitAll '/' (escapeChars token.toList)).map unescapeChars =
      [token.toList] := by
    rw [Text.splitAll_of_notMem (slash_notMem_escapeChars _), List.map_singleton,
      unescapeChars_escapeChars]
  unfold tokens? at h
  split at h
  · next hempty =>
      rw [hempty, List.nil_append] at hchars
      obtain rfl := Option.some.inj h
      rw [tokens?_of_slash hchars, hlast, List.nil_append]
  · next rest hrest =>
      rw [hrest, List.cons_append] at hchars
      obtain rfl := Option.some.inj h
      rw [tokens?_of_slash hchars, Text.splitAll_append, List.map_append, hlast]
  · cases h

/-- The pointer of a path: the tokens of its steps one behind the other. -/
def ofPath (path : List String) : String := path.foldl child ""

/-- **The tokens of a pointer are those that it was built from.** -/
theorem tokens?_ofPath (path : List String) :
    tokens? (ofPath path) = some (path.map String.toList) := by
  unfold ofPath
  induction path using List.reverseRecOn with
  | nil => rfl
  | append_singleton path token ih =>
      rw [List.foldl_append, List.foldl_cons, List.foldl_nil, List.map_append]
      exact tokens?_child ih token

/-! ## §3  Steps -/

theorem walk?_append (front back : List (List Char)) (v : Json) :
    walk? (front ++ back) v = (walk? front v).bind (walk? back) := by
  induction front generalizing v with
  | nil => rfl
  | cons token rest ih =>
      rw [List.cons_append, walk?, walk?, Option.bind_assoc]
      exact congrArg _ (funext ih)

/-- **A pointer leads where its steps lead.** -/
theorem at?_ofPath (path : List String) (v : Json) :
    v.at? (ofPath path) = walk? (path.map String.toList) v := by
  unfold Json.at?
  rw [tokens?_ofPath, Option.bind_some]

theorem index?_digits (n : Nat) : index? (Decimal.digits n) = some n := by
  have hnat : Decimal.natOf? (Decimal.digits n) = some n := by
    obtain ⟨hne, hall⟩ := Decimal.isDigits_digits n
    unfold Decimal.natOf?
    rw [Decimal.ofDigits_digits, if_neg]
    simpa [hne] using hall
  by_cases hn : n = 0
  · subst hn
    rfl
  · have hhead := Decimal.head?_digits_ne_zero hn
    unfold index?
    split
    · next h => rw [h] at hhead; exact absurd rfl hhead
    · next h => rw [h] at hhead; exact absurd rfl hhead
    · exact hnat

theorem step?_item (items : List Json) (index : Nat) :
    step? (Decimal.ofNat index).toList (.array items) = items[index]? := by
  unfold Decimal.ofNat
  rw [String.toList_ofList, step?, index?_digits]
  rfl

theorem step?_member {members : List (String × Json)} {name : String} {v : Json}
    (h : (name, v) ∈ members) (hnames : (Table.keys members).Nodup) :
    step? name.toList (.object members) = some v := by
  unfold step?
  rw [String.ofList_toList]
  exact (Table.find?_eq_some_iff hnames).mpr h

end Pointer

/-! ## §4  Names that are different everywhere -/

namespace Json

theorem itemsHaveDistinctKeys_iff {items : List Json} :
    itemsHaveDistinctKeys items ↔ ∀ x ∈ items, x.hasDistinctKeys := by
  induction items with
  | nil => simp [itemsHaveDistinctKeys]
  | cons x rest ih => rw [itemsHaveDistinctKeys, ih, List.forall_mem_cons]

theorem membersHaveDistinctKeys_iff {members : List (String × Json)} :
    membersHaveDistinctKeys members ↔ ∀ m ∈ members, m.2.hasDistinctKeys := by
  induction members with
  | nil => simp [membersHaveDistinctKeys]
  | cons m rest ih => rw [membersHaveDistinctKeys, ih, List.forall_mem_cons]

theorem hasDistinctKeys_array {items : List Json} :
    (array items).hasDistinctKeys ↔ ∀ x ∈ items, x.hasDistinctKeys := by
  rw [hasDistinctKeys, itemsHaveDistinctKeys_iff]

theorem hasDistinctKeys_object {members : List (String × Json)} :
    (object members).hasDistinctKeys ↔
      (Table.keys members).Nodup ∧ ∀ m ∈ members, m.2.hasDistinctKeys := by
  rw [hasDistinctKeys, membersHaveDistinctKeys_iff]

end Json

end ReplySchema
