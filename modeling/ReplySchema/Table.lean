/-! # Ordered tables

A table is a list of key and value pairs in insertion order: the members of a
JSON object, the documents of a schema set, the artifacts of a cache.  Setting a
key that is there replaces its value in place; a new key goes to the end.  So the
order is the order of first insertion, and a repeated key keeps its first place and
its last value.

The laws: what `find?` answers after `insert`, and that `insert` adds a key at most once.
-/

set_option autoImplicit false

namespace ReplySchema

/-- A table from `κ` to `α`, in insertion order. -/
abbrev Table (κ α : Type) := List (κ × α)

namespace Table

variable {κ α β : Type} [DecidableEq κ]

def find? (k : κ) : Table κ α → Option α
  | [] => none
  | (j, v) :: rest => if j = k then some v else find? k rest

def contains (k : κ) (t : Table κ α) : Bool := (find? k t).isSome

/-- Sets a key: in place if it is there, else at the end. -/
def insert (k : κ) (v : α) : Table κ α → Table κ α
  | [] => [(k, v)]
  | (j, w) :: rest => if j = k then (k, v) :: rest else (j, w) :: insert k v rest

def keys (t : Table κ α) : List κ := t.map (·.1)

def insertAll (pairs : List (κ × α)) (t : Table κ α) : Table κ α :=
  pairs.foldl (fun acc p => insert p.1 p.2 acc) t

/-- A table whose pairs are set in the order of the list. -/
def ofList (pairs : List (κ × α)) : Table κ α := insertAll pairs []

/-! ## Laws -/

@[simp] theorem find?_nil (k : κ) : find? k ([] : Table κ α) = none := rfl

theorem find?_cons (k j : κ) (v : α) (rest : Table κ α) :
    find? k ((j, v) :: rest) = if j = k then some v else find? k rest := rfl

@[simp] theorem find?_insert_self (k : κ) (v : α) (t : Table κ α) :
    find? k (insert k v t) = some v := by
  induction t with
  | nil => simp [insert, find?]
  | cons p rest ih =>
      obtain ⟨j, w⟩ := p
      by_cases h : j = k
      · simp [insert, find?, h]
      · simp [insert, find?, h, ih]

theorem find?_insert_ne {k j : κ} (h : j ≠ k) (v : α) (t : Table κ α) :
    find? k (insert j v t) = find? k t := by
  induction t with
  | nil => simp [insert, find?, h]
  | cons p rest ih =>
      obtain ⟨i, w⟩ := p
      by_cases hi : i = j
      · subst hi; simp [insert, find?, h]
      · simp only [insert, if_neg hi, find?_cons, ih]

theorem find?_insert (k j : κ) (v : α) (t : Table κ α) :
    find? k (insert j v t) = if j = k then some v else find? k t := by
  by_cases h : j = k
  · subst h; simp
  · simp [h, find?_insert_ne h]

theorem mem_keys_iff_find?_isSome (k : κ) (t : Table κ α) :
    k ∈ keys t ↔ (find? k t).isSome = true := by
  induction t with
  | nil => simp [keys]
  | cons p rest ih =>
      obtain ⟨j, v⟩ := p
      by_cases h : j = k
      · simp [keys, find?, h]
      · simp only [keys, List.map_cons, List.mem_cons, find?, if_neg h] at ih ⊢
        exact ⟨fun hk => ih.1 (hk.resolve_left (fun e => h e.symm)), fun hk => .inr (ih.2 hk)⟩

theorem keys_insert (k : κ) (v : α) (t : Table κ α) :
    keys (insert k v t) = if k ∈ keys t then keys t else keys t ++ [k] := by
  induction t with
  | nil => simp [insert, keys]
  | cons p rest ih =>
      obtain ⟨j, w⟩ := p
      by_cases h : j = k
      · simp [insert, keys, h]
      · have h' : ¬ k = j := fun e => h e.symm
        simp only [keys] at ih
        simp only [insert, if_neg h, keys, List.map_cons, ih, List.mem_cons, h', false_or]
        by_cases hk : k ∈ List.map (fun p => p.1) rest <;> simp [hk]

theorem nodup_keys_insert (k : κ) (v : α) {t : Table κ α} (h : (keys t).Nodup) :
    (keys (insert k v t)).Nodup := by
  rw [keys_insert]
  split
  · exact h
  · rename_i hk
    refine List.nodup_append.2 ⟨h, by simp, fun a ha b hb e => hk ?_⟩
    rw [List.mem_singleton] at hb
    rwa [← hb, ← e]

theorem find?_mem {k : κ} {v : α} {t : Table κ α} (h : find? k t = some v) : (k, v) ∈ t := by
  induction t with
  | nil => simp at h
  | cons p rest ih =>
      obtain ⟨j, w⟩ := p
      by_cases hj : j = k
      · simp [find?, hj] at h; simp [hj, h]
      · simp only [find?, if_neg hj] at h; exact List.mem_cons_of_mem _ (ih h)

end Table

end ReplySchema
