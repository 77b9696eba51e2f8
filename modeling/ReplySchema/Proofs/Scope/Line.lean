import Mathlib.Data.List.Chain
import ReplySchema.Proofs.Result
import ReplySchema.Proofs.Schema.Merging
import ReplySchema.Proofs.Scope.Inheritance

/-! # The way up from a scope

`line` lists the identifiers on the way up from a scope.  Like `chain` it only goes on to a
parent that is older than its child.  In a rooted tree that restricts nothing: every scope but
the root has a parent, and that is older.  So every way up ends at the root (`IsRooted.induct`,
from which the laws of lines follow).

What is known of the scopes one by one is known of a chain (`map_chain_eq`), and so of what is
looked up along it (`findSome?_chain_eq`).  Trees that agree on the parents agree on the lines
(`line_congr`).

A schema set has the documents of all scopes on the way up, and of two documents with one
identifier it has that of the inner scope (`Set.find?_documents_ofStores`).  So a document that
is registered on a scope is known by its identifier to every scope below, unless a scope in
between has its own (`visible_of_registerSchema`).
-/

set_option autoImplicit false

namespace ReplySchema.ScopeTree

/-! ## §1  Above a scope -/

section

open Schema (Document Set)

/-- Whether a scope is another one or above it. -/
inductive IsAbove (tree : ScopeTree) (scope : ScopeId) : ScopeId → Prop where
  | self {s : Scope} (h : tree.get? scope = some s) : IsAbove tree scope scope
  | parent {id parent : ScopeId} {s : Scope} (h : tree.get? id = some s)
      (hparent : s.parent = some parent) (holder : parent.index < id.index)
      (habove : IsAbove tree scope parent) : IsAbove tree scope id

variable {tree tree' : ScopeTree} {scope : ScopeId} {change : Scope → Scope}

theorem parent_update (h : tree.update scope change = .ok tree')
    (hparent : ∀ s, (change s).parent = s.parent) {id : ScopeId} {s : Scope}
    (hs : tree.get? id = some s) : ∃ s', tree'.get? id = some s' ∧ s'.parent = s.parent := by
  rw [get?_update h, hs]
  split
  · exact ⟨change s, rfl, hparent s⟩
  · exact ⟨s, rfl, rfl⟩

theorem mem_chain_of_isAbove (h : tree.update scope change = .ok tree')
    (hparent : ∀ s, (change s).parent = s.parent) {s : Scope} (hs : tree.get? scope = some s)
    {id : ScopeId} (habove : tree.IsAbove scope id) : change s ∈ tree'.chain id := by
  induction habove with
  | self _ =>
      have hs' : tree'.get? scope = some (change s) := by
        rw [get?_update h, if_pos rfl, hs]
        rfl
      rw [chain_of_some hs']
      exact List.mem_cons_self
  | parent hid hp holder _ ih =>
      obtain ⟨s', hs', hparent'⟩ := parent_update h hparent hid
      rw [chain_of_some hs', hparent', hp]
      simp only [if_pos holder]
      exact List.mem_cons_of_mem _ ih

theorem mem_chain_update (h : tree.update scope change = .ok tree')
    (hparent : ∀ s, (change s).parent = s.parent) {s : Scope} (hs : tree.get? scope = some s)
    (id : ScopeId) {s' : Scope} (hmem : s' ∈ tree'.chain id) :
    s' ∈ tree.chain id ∨ s' = change s ∧ s ∈ tree.chain id := by
  have hget := get?_update h id
  cases hid : tree.get? id with
  | none =>
      rw [hid] at hget
      have hnone : tree'.get? id = none := by rw [hget]; split <;> rfl
      rw [chain_of_none hnone] at hmem
      cases hmem
  | some s₁ =>
      obtain ⟨s₁', hs₁', hparent'⟩ := parent_update h hparent hid
      rw [chain_of_some hs₁', hparent'] at hmem
      rw [chain_of_some hid]
      rcases List.mem_cons.mp hmem with rfl | hmem
      · rw [hs₁', hid] at hget
        split at hget
        · rename_i heq
          subst heq
          obtain rfl := Option.some.inj (hs.symm.trans hid)
          exact Or.inr ⟨Option.some.inj hget, List.mem_cons_self⟩
        · rw [Option.some.inj hget]
          exact Or.inl List.mem_cons_self
      · cases hp : s₁.parent with
        | none =>
            rw [hp] at hmem
            cases hmem
        | some parent =>
            simp only [hp] at hmem
            by_cases holder : parent.index < id.index
            · simp only [if_pos holder] at hmem ⊢
              rcases mem_chain_update h hparent hs parent hmem with hold | ⟨heq, hold⟩
              · exact Or.inl (List.mem_cons_of_mem _ hold)
              · exact Or.inr ⟨heq, List.mem_cons_of_mem _ hold⟩
            · simp only [if_neg holder] at hmem
              cases hmem
termination_by id.index

/-! ### Registered documents -/

/-- **A registered schema is visible below its scope**: a document is known by its identifier, and
it is the registered one if none was known by it before. -/
theorem visible_of_registerSchema {root : Json} (h : tree.registerSchema scope root = .ok tree')
    {j : ScopeId} (habove : tree.IsAbove scope j) :
    ∃ document id, Document.ofShared? root = .ok document ∧ document.id = some id ∧
      (Table.find? id (tree'.schemaSet j).documents).isSome = true ∧
      (Table.find? id (tree.schemaSet j).documents = none →
        ∃ source, Table.find? id (tree'.schemaSet j).documents = some source ∧
          source.document = document) := by
  obtain ⟨s, store, document, id, hs, hdocument, hid, hstore, hu⟩ := registerSchema_document h
  have hchanged := mem_chain_of_isAbove hu (fun _ => rfl) hs habove
  refine ⟨document, id, hdocument, hid, ?_⟩
  unfold schemaSet
  rw [Set.find?_documents_ofStores, Set.find?_documents_ofStores]
  have hsome : ((Set.sourcesOf ((tree'.chain j).reverse.map Scope.schemas)).reverse.find?
      fun source => decide (source.id = some id)).isSome = true := by
    obtain ⟨source, hsource, hdoc⟩ := Set.exists_source_iff.mpr ⟨store,
      List.mem_map_of_mem (f := Scope.schemas) (List.mem_reverse.mpr hchanged),
      by rw [hstore]; exact List.mem_append_right _ (List.mem_singleton_self document)⟩
    rw [List.find?_isSome]
    exact ⟨source, List.mem_reverse.mpr hsource, decide_eq_true (by rw [Schema.Source.id, hdoc, hid])⟩
  refine ⟨hsome, fun hnone => ?_⟩
  obtain ⟨source, hfind⟩ := Option.isSome_iff_exists.mp hsome
  refine ⟨source, hfind, ?_⟩
  have hsource := List.mem_reverse.mp (List.mem_of_find?_eq_some hfind)
  have hsourceId : source.id = some id := by simpa using List.find?_some hfind
  -- a document of this identifier that was there before would have been known
  have hnew : ∀ old ∈ tree.chain j, source.document ∉ old.schemas.documents := by
    intro old hold hmem
    obtain ⟨other, hother, hdoc⟩ := Set.exists_source_iff.mpr ⟨old.schemas,
      List.mem_map.mpr ⟨old, List.mem_reverse.mpr hold, rfl⟩, hmem⟩
    have hno := List.find?_eq_none.mp hnone other (List.mem_reverse.mpr hother)
    exact hno (decide_eq_true (by rw [← hsourceId, Schema.Source.id, Schema.Source.id, hdoc]))
  obtain ⟨store', hstore', hmem⟩ := Set.exists_source_iff.mp ⟨source, hsource, rfl⟩
  obtain ⟨s', hs', rfl⟩ := List.mem_map.mp hstore'
  rcases mem_chain_update hu (fun _ => rfl) hs j (List.mem_reverse.mp hs') with hold | ⟨rfl, hold⟩
  · exact absurd hmem (hnew s' hold)
  · rw [hstore] at hmem
    rcases List.mem_append.mp hmem with hmem | hmem
    · exact absurd hmem (hnew s hold)
    · exact List.mem_singleton.mp hmem

end

/-! ## §2  The way up -/

/-- The identifiers of a scope, of its parent, and so on up to the root. -/
def line (tree : ScopeTree) (id : ScopeId) : List ScopeId :=
  match tree.get? id with
  | none => []
  | some scope =>
      id :: match scope.parent with
        | none => []
        | some parent => if parent.index < id.index then tree.line parent else []
termination_by id.index

variable {tree tree' : ScopeTree} {id scope : ScopeId}

/-- **One step up**: there is no such scope, or it is the last on the way up, or the way up goes on
with that of its parent. -/
theorem line_cases (tree : ScopeTree) (id : ScopeId) :
    (tree.get? id = none ∧ tree.line id = [] ∧ tree.chain id = []) ∨
      ∃ s, tree.get? id = some s ∧
        ((tree.line id = [id] ∧ tree.chain id = [s]) ∨
          ∃ parent, s.parent = some parent ∧ parent.index < id.index ∧
            tree.line id = id :: tree.line parent ∧ tree.chain id = s :: tree.chain parent) := by
  cases hs : tree.get? id with
  | none =>
      left
      exact ⟨rfl, by rw [line, hs], chain_of_none hs⟩
  | some s =>
      right
      have hline := line.eq_def tree id
      have hchain := chain_of_some hs
      rw [hs] at hline
      refine ⟨s, rfl, ?_⟩
      cases hp : s.parent with
      | none =>
          simp only [hp] at hline hchain
          exact Or.inl ⟨hline, hchain⟩
      | some parent =>
          simp only [hp] at hline hchain
          by_cases hlt : parent.index < id.index
          · rw [if_pos hlt] at hline hchain
            exact Or.inr ⟨parent, rfl, hlt, hline, hchain⟩
          · rw [if_neg hlt] at hline hchain
            exact Or.inl ⟨hline, hchain⟩

theorem line_of_parent {s : Scope} {parent : ScopeId} (hs : tree.get? id = some s)
    (hp : s.parent = some parent) (hlt : parent.index < id.index) :
    tree.line id = id :: tree.line parent := by
  rw [line, hs]
  simp only [hp, if_pos hlt]

theorem exists_get?_iff : (∃ s, tree.get? id = some s) ↔ id.index < tree.scopes.length := by
  constructor
  · rintro ⟨s, hs⟩
    exact (List.getElem?_eq_some_iff.mp hs).1
  · intro hlt
    exact ⟨tree.scopes[id.index], List.getElem?_eq_getElem hlt⟩

/-! ## §3  Lines and chains -/

theorem chain_eq_filterMap (tree : ScopeTree) (id : ScopeId) :
    tree.chain id = (tree.line id).filterMap tree.get? := by
  rcases tree.line_cases id with
    ⟨-, hline, hchain⟩ | ⟨s, hs, ⟨hline, hchain⟩ | ⟨parent, -, hlt, hline, hchain⟩⟩
  · rw [hline, hchain, List.filterMap_nil]
  · rw [hline, hchain, List.filterMap_cons, hs, List.filterMap_nil]
  · rw [hline, hchain, List.filterMap_cons, hs, chain_eq_filterMap tree parent]
termination_by id.index

theorem exists_of_mem_line {j : ScopeId} (id : ScopeId) (h : j ∈ tree.line id) :
    ∃ s, tree.get? j = some s := by
  rcases tree.line_cases id with
    ⟨-, hline, -⟩ | ⟨s, hs, ⟨hline, -⟩ | ⟨parent, -, hlt, hline, -⟩⟩
  · rw [hline] at h
    cases h
  · rw [hline, List.mem_singleton] at h
    subst h
    exact ⟨s, hs⟩
  · rw [hline] at h
    rcases List.mem_cons.mp h with rfl | h
    · exact ⟨s, hs⟩
    · exact exists_of_mem_line parent h
termination_by id.index

/-- **What is known of the scopes one by one is known of a chain.** -/
theorem map_chain_eq {β : Type} {g : Scope → β} {f : ScopeId → β}
    (h : ∀ j s, tree.get? j = some s → g s = f j) (id : ScopeId) :
    (tree.chain id).map g = (tree.line id).map f := by
  have hmembers : ∀ js : List ScopeId, (∀ j ∈ js, ∃ s, tree.get? j = some s) →
      (js.filterMap tree.get?).map g = js.map f := by
    intro js
    induction js with
    | nil => exact fun _ => rfl
    | cons j rest ih =>
        intro hall
        obtain ⟨s, hs⟩ := hall j List.mem_cons_self
        rw [List.filterMap_cons, hs, List.map_cons, List.map_cons, h j s hs,
          ih fun k hk => hall k (List.mem_cons_of_mem _ hk)]
  rw [chain_eq_filterMap]
  exact hmembers _ fun j hj => exists_of_mem_line id hj

theorem findSome?_chain_eq {β : Type} {g : Scope → Option β} {f : ScopeId → Option β}
    (h : ∀ j s, tree.get? j = some s → g s = f j) (id : ScopeId) :
    (tree.chain id).findSome? g = (tree.line id).findSome? f := by
  have hchain := congrArg (List.findSome? fun o => o) (map_chain_eq h id)
  rwa [List.findSome?_map, List.findSome?_map] at hchain

/-- The documents that are registered on a chain, those of the outermost scope first. -/
def documents (tree : ScopeTree) (id : ScopeId) : List Schema.Document :=
  Schema.Set.documentsOf ((tree.chain id).reverse.map Scope.schemas)

/-- What an identifier means to a scope is the last document of its chain that has it. -/
theorem find?_documents_schemaSet (tree : ScopeTree) (id : ScopeId) (x : String) :
    (Table.find? x (tree.schemaSet id).documents).map Schema.Source.document =
      (tree.documents id).reverse.find? fun d => decide (d.id = some x) :=
  Schema.Set.find?_documents_eq _ _ x

/-- What an embedded identifier means to a scope is a place in the last document that embeds it. -/
theorem find?_embedded_schemaSet (tree : ScopeTree) (id : ScopeId) (x : String) :
    (Table.find? x (tree.schemaSet id).embedded).map (fun e => (e.1.document, e.2)) =
      (tree.documents id).reverse.findSome? fun d => (d.embeddedAt? x).map fun p => (d, p) :=
  Schema.Set.find?_embedded_eq _ _ x

/-- **The scopes above a scope are those of its line.** -/
theorem isAbove_iff (id : ScopeId) : tree.IsAbove scope id ↔ scope ∈ tree.line id := by
  constructor
  · intro h
    induction h with
    | self hs =>
        rcases tree.line_cases scope with
          ⟨hnone, -, -⟩ | ⟨s, -, ⟨hline, -⟩ | ⟨parent, -, -, hline, -⟩⟩
        · rw [hnone] at hs
          cases hs
        · simp [hline]
        · simp [hline]
    | parent hs hp hlt _ ih =>
        rw [line_of_parent hs hp hlt]
        exact List.mem_cons_of_mem _ ih
  · intro h
    rcases tree.line_cases id with
      ⟨-, hline, -⟩ | ⟨s, hs, ⟨hline, -⟩ | ⟨parent, hp, hlt, hline, -⟩⟩
    · rw [hline] at h
      cases h
    · rw [hline, List.mem_singleton] at h
      subst h
      exact .self hs
    · rw [hline] at h
      rcases List.mem_cons.mp h with rfl | h
      · exact .self hs
      · exact .parent hs hp hlt ((isAbove_iff parent).mpr h)
termination_by id.index

/-! ## §4  Rooted trees -/

/-- Whether every scope but the root has a parent, and an older one. -/
structure IsRooted (tree : ScopeTree) : Prop where
  root : ∃ s, tree.get? .root = some s ∧ s.parent = none
  parent : ∀ id s, tree.get? id = some s → id ≠ .root →
    ∃ parent, s.parent = some parent ∧ parent.index < id.index

/-- **The induction on the way up**: from the root to a scope, one child after the other. -/
theorem IsRooted.induct (h : tree.IsRooted) {P : ScopeId → Prop}
    (root : tree.line .root = [.root] → P .root)
    (child : ∀ id parent s, tree.get? id = some s → s.parent = some parent →
      parent.index < id.index → tree.line id = id :: tree.line parent → P parent → P id)
    (id : ScopeId) {s : Scope} (hs : tree.get? id = some s) : P id := by
  by_cases hid : id = .root
  · subst hid
    obtain ⟨r, hr, hparent⟩ := h.root
    refine root ?_
    rw [line, hr]
    simp only [hparent]
  · obtain ⟨parent, hparent, hlt⟩ := h.parent id s hs hid
    obtain ⟨p, hp⟩ : ∃ p, tree.get? parent = some p :=
      exists_get?_iff.mpr (Nat.lt_trans hlt (exists_get?_iff.mp ⟨s, hs⟩))
    exact child id parent s hs hparent hlt (line_of_parent hs hparent hlt)
      (h.induct root child parent hp)
termination_by id.index

theorem IsRooted.head?_line (h : tree.IsRooted) {s : Scope} (hs : tree.get? id = some s) :
    (tree.line id).head? = some id := by
  refine h.induct (P := fun id => (tree.line id).head? = some id) ?_ ?_ id hs
  · intro hline
    rw [hline]
    rfl
  · intro id parent s _ _ _ hline _
    rw [hline]
    rfl

/-- **Every way up ends at the root.** -/
theorem IsRooted.getLast?_line (h : tree.IsRooted) {s : Scope} (hs : tree.get? id = some s) :
    (tree.line id).getLast? = some .root := by
  refine h.induct (P := fun id => (tree.line id).getLast? = some .root) ?_ ?_ id hs
  · intro hline
    rw [hline]
    rfl
  · intro id parent s _ _ _ hline ih
    rw [hline, List.getLast?_cons, ih]
    rfl

theorem IsRooted.isChain_line (h : tree.IsRooted) {s : Scope} (hs : tree.get? id = some s) :
    (tree.line id).IsChain fun j k => (tree.get? j).bind Scope.parent = some k := by
  refine h.induct (P := fun id => (tree.line id).IsChain fun j k =>
    (tree.get? j).bind Scope.parent = some k) ?_ ?_ id hs
  · intro hline
    rw [hline]
    exact List.isChain_singleton _
  · intro id parent s hs hp hlt hline ih
    obtain ⟨p, hparent⟩ := exists_get?_iff.mpr
      (Nat.lt_trans hlt (exists_get?_iff.mp ⟨s, hs⟩) : parent.index < tree.scopes.length)
    rw [hline, List.isChain_cons]
    refine ⟨?_, ih⟩
    intro k hk
    rw [h.head?_line hparent, Option.mem_some] at hk
    subst hk
    rw [hs]
    exact hp

theorem index_le_of_mem_line {j : ScopeId} (id : ScopeId) (h : j ∈ tree.line id) :
    j.index ≤ id.index := by
  rcases tree.line_cases id with
    ⟨-, hline, -⟩ | ⟨s, -, ⟨hline, -⟩ | ⟨parent, -, hlt, hline, -⟩⟩
  · rw [hline] at h
    cases h
  · rw [hline, List.mem_singleton] at h
    exact h ▸ Nat.le_refl _
  · rw [hline] at h
    rcases List.mem_cons.mp h with rfl | h
    · exact Nat.le_refl _
    · have hle := index_le_of_mem_line parent h
      omega
termination_by id.index

/-- Of two members of a way up the older one is on the way up from the other. -/
theorem mem_line_of_index_le {j k : ScopeId} (id : ScopeId) (hj : j ∈ tree.line id)
    (hk : k ∈ tree.line id) (hle : j.index ≤ k.index) : j ∈ tree.line k := by
  by_cases hkid : k = id
  · rwa [hkid]
  · have hlt : k.index < id.index := by
      have hne : k.index ≠ id.index := fun heq => hkid (by cases k; cases id; simpa using heq)
      have := index_le_of_mem_line id hk
      omega
    rcases tree.line_cases id with
      ⟨-, hline, -⟩ | ⟨s, -, ⟨hline, -⟩ | ⟨parent, -, holder, hline, -⟩⟩
    · rw [hline] at hk
      cases hk
    · rw [hline] at hk
      exact absurd (List.mem_singleton.mp hk) hkid
    · rw [hline] at hj hk
      rcases List.mem_cons.mp hk with hk | hk
      · exact absurd hk hkid
      · rcases List.mem_cons.mp hj with rfl | hj
        · omega
        · exact mem_line_of_index_le parent hj hk hle
termination_by id.index

/-- **The scopes on a way up get older.** -/
theorem pairwise_line (tree : ScopeTree) (id : ScopeId) :
    (tree.line id).Pairwise fun j k => k.index < j.index := by
  rcases tree.line_cases id with
    ⟨-, hline, -⟩ | ⟨s, -, ⟨hline, -⟩ | ⟨parent, -, hlt, hline, -⟩⟩
  · rw [hline]
    exact List.Pairwise.nil
  · rw [hline]
    exact List.pairwise_singleton _ _
  · rw [hline, List.pairwise_cons]
    refine ⟨?_, pairwise_line tree parent⟩
    intro j hj
    have hle := index_le_of_mem_line parent hj
    omega
termination_by id.index

theorem line_congr (id : ScopeId)
    (h : ∀ j : ScopeId, j.index ≤ id.index →
      (tree'.get? j).map Scope.parent = (tree.get? j).map Scope.parent) :
    tree'.line id = tree.line id := by
  have hid := h id (Nat.le_refl _)
  rw [line.eq_def tree', line.eq_def tree]
  cases hs : tree.get? id with
  | none =>
      cases hs' : tree'.get? id with
      | none => rfl
      | some s' => simp [hs, hs'] at hid
  | some s =>
      cases hs' : tree'.get? id with
      | none => simp [hs, hs'] at hid
      | some s' =>
          simp only [hs, hs', Option.map_some, Option.some.injEq] at hid
          simp only [hid]
          congr 1
          cases s.parent with
          | none => rfl
          | some parent =>
              by_cases hlt : parent.index < id.index
              · simp only [if_pos hlt]
                rw [line_congr parent fun j hj => h j (by omega)]
              · simp only [if_neg hlt]
termination_by id.index

end ReplySchema.ScopeTree
