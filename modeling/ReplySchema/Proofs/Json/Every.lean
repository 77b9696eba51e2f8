import ReplySchema.Json.Written
import ReplySchema.Proofs.Number.Datum

/-! # What holds of every part of a value

A property of whole values is often one of their numbers and of the names of their objects,
wherever these stand.  `Json.Every` and `Written.Every` say that once, for a value and for
its written form.

A value is *sound* if its doubles are finite and real doubles, and if no object in it names
a member twice.  This is what a value in memory can be; the type allows more.
-/

set_option autoImplicit false

namespace ReplySchema

/-- What holds of the numbers and of the names of the objects, everywhere in a value. -/
inductive Json.Every (number : Number → Prop) (names : List String → Prop) : Json → Prop where
  | null : Every number names .null
  | bool (b : Bool) : Every number names (.bool b)
  | number {n : Number} (h : number n) : Every number names (.number n)
  | string (s : String) : Every number names (.string s)
  | array {items : List Json} (h : ∀ x ∈ items, Every number names x) :
      Every number names (.array items)
  | object {members : List (String × Json)} (hnames : names (Table.keys members))
      (h : ∀ m ∈ members, Every number names m.2) : Every number names (.object members)

/-- What holds of the texts of numbers and of the names of the objects, everywhere in a written
value. -/
inductive Written.Every (number : List Char → Prop) (names : List String → Prop) :
    Written → Prop where
  | null : Every number names .null
  | bool (b : Bool) : Every number names (.bool b)
  | number {text : List Char} (h : number text) : Every number names (.number text)
  | string (s : String) : Every number names (.string s)
  | array {items : List Written} (h : ∀ x ∈ items, Every number names x) :
      Every number names (.array items)
  | object {members : List (String × Written)} (hnames : names (Table.keys members))
      (h : ∀ m ∈ members, Every number names m.2) : Every number names (.object members)

theorem Json.Every.member {number : Number → Prop} {names : List String → Prop}
    {members : List (String × Json)} (h : (Json.object members).Every number names)
    {m : String × Json} (hm : m ∈ members) : m.2.Every number names := by
  cases h with
  | object _ h => exact h m hm

theorem Json.Every.item {number : Number → Prop} {names : List String → Prop}
    {items : List Json} (h : (Json.array items).Every number names) {x : Json} (hx : x ∈ items) :
    x.Every number names := by
  cases h with
  | array h => exact h x hx

theorem Json.Every.mono_names {number : Number → Prop} {names names' : List String → Prop} {v : Json}
    (h : v.Every number names) (himp : ∀ ns, names ns → names' ns) : v.Every number names' := by
  induction h with
  | null => exact .null
  | bool b => exact .bool b
  | number h => exact .number h
  | string s => exact .string s
  | array _ ih => exact .array ih
  | object hnames _ ih => exact .object (himp _ hnames) ih

theorem Written.every_ofJson {number : Number → Prop} {text : List Char → Prop}
    {names : List String → Prop} (hnumber : ∀ n, number n → text (numberChars n)) {v : Json}
    (h : v.Every number names) : (ofJson v).Every text names := by
  induction h with
  | null => exact .null
  | bool b => exact .bool b
  | number h => exact .number (hnumber _ h)
  | string s => exact .string s
  | array _ ih =>
      rw [ofJson, ofItems_eq_map]
      refine .array fun x hx => ?_
      obtain ⟨y, hy, rfl⟩ := List.mem_map.mp hx
      exact ih y hy
  | object hnames _ ih =>
      rw [ofJson, ofMembers_eq_map]
      refine .object ?_ fun m hm => ?_
      · simpa [Table.keys, List.map_map, Function.comp_def] using hnames
      · obtain ⟨m', hm', rfl⟩ := List.mem_map.mp hm
        exact ih m' hm'

/-! ## The names in a value -/

/-- Whether all names of members in a value are among the given ones. -/
abbrev Json.NamesAmong (given : List String) (v : Json) : Prop :=
  v.Every (fun _ => True) fun names => ∀ name ∈ names, name ∈ given

theorem Json.NamesAmong.mono {given more : List String} {v : Json} (h : v.NamesAmong given)
    (hsubset : given ⊆ more) : v.NamesAmong more :=
  h.mono_names fun _ hnames name hname => hsubset (hnames name hname)

mutual
theorem Json.exists_namesAmong : ∀ v : Json, ∃ given, v.NamesAmong given
  | .null => ⟨[], .null⟩
  | .bool b => ⟨[], .bool b⟩
  | .number _ => ⟨[], .number trivial⟩
  | .string s => ⟨[], .string s⟩
  | .array items => by
      obtain ⟨given, hgiven⟩ := exists_namesAmong_items items
      exact ⟨given, .array hgiven⟩
  | .object members => by
      obtain ⟨given, hgiven⟩ := exists_namesAmong_members members
      refine ⟨Table.keys members ++ given, .object (fun name hname => ?_) fun m hm => ?_⟩
      · exact List.mem_append_left _ hname
      · exact (hgiven m hm).mono (List.subset_append_right _ _)

theorem Json.exists_namesAmong_items :
    ∀ items : List Json, ∃ given, ∀ x ∈ items, x.NamesAmong given
  | [] => ⟨[], fun _ h => by cases h⟩
  | x :: rest => by
      obtain ⟨given, hgiven⟩ := exists_namesAmong x
      obtain ⟨more, hmore⟩ := exists_namesAmong_items rest
      refine ⟨given ++ more, fun y hy => ?_⟩
      rcases List.mem_cons.mp hy with rfl | hy
      · exact hgiven.mono (List.subset_append_left _ _)
      · exact (hmore y hy).mono (List.subset_append_right _ _)

theorem Json.exists_namesAmong_members :
    ∀ members : List (String × Json), ∃ given, ∀ m ∈ members, m.2.NamesAmong given
  | [] => ⟨[], fun _ h => by cases h⟩
  | (_, x) :: rest => by
      obtain ⟨given, hgiven⟩ := exists_namesAmong x
      obtain ⟨more, hmore⟩ := exists_namesAmong_members rest
      refine ⟨given ++ more, fun m hm => ?_⟩
      rcases List.mem_cons.mp hm with rfl | hm
      · exact hgiven.mono (List.subset_append_left _ _)
      · exact (hmore m hm).mono (List.subset_append_right _ _)
end

/-! ## Sound values -/

/-- Whether a number is one that a value can hold. -/
def Number.IsSound : Number → Prop
  | int _ => True
  | float x => x.isFinite = true ∧ x.IsDatum

/-- Whether a value is one that can be in memory. -/
def Json.IsSound (v : Json) : Prop := v.Every Number.IsSound List.Nodup

theorem Json.isSound_nil : (object []).IsSound := .object List.nodup_nil fun _ hm => by cases hm

theorem Json.isSound_cons {name : String} {v : Json} {members : List (String × Json)}
    (hfresh : name ∉ Table.keys members) (hv : v.IsSound) (h : (object members).IsSound) :
    (object ((name, v) :: members)).IsSound := by
  cases h with
  | object hnames h =>
      refine .object (List.nodup_cons.mpr ⟨hfresh, hnames⟩) fun m hm => ?_
      rcases List.mem_cons.mp hm with rfl | hm
      · exact hv
      · exact h m hm

theorem Json.IsSound.member {members : List (String × Json)} (h : (object members).IsSound)
    {m : String × Json} (hm : m ∈ members) : m.2.IsSound :=
  Every.member h hm

theorem Json.IsSound.item {items : List Json} (h : (array items).IsSound) {x : Json}
    (hx : x ∈ items) : x.IsSound :=
  Every.item h hx

theorem Json.IsSound.nodup {members : List (String × Json)} (h : (object members).IsSound) :
    (Table.keys members).Nodup := by
  cases h with
  | object hnames _ => exact hnames

/-- The members of a sound value have distinct names; a value that is no object has none. -/
theorem Json.IsSound.nodup_members {v : Json} (h : v.IsSound) :
    (Table.keys v.members).Nodup := by
  cases v with
  | object members => exact h.nodup
  | _ => exact List.nodup_nil

theorem Json.IsSound.of_mem_members {v : Json} (h : v.IsSound) {m : String × Json}
    (hm : m ∈ v.members) : m.2.IsSound := by
  cases v with
  | object members => exact h.member hm
  | _ => cases hm

theorem Json.IsSound.find? {v w : Json} {key : String} (h : v.IsSound)
    (hw : Table.find? key v.members = some w) : w.IsSound :=
  h.of_mem_members (Table.find?_mem hw)

end ReplySchema
