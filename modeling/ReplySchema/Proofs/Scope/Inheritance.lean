import ReplySchema.Proofs.Result
import ReplySchema.Scope.Tree

/-! # What a change to one scope does to the others

A scope looks upwards only, and parents are older than their children.  So a change to
one scope is seen by the scopes whose chain meets it, and by no other.  Two facts carry
the rest:

* `map_chain_congr`: two trees that agree, scope by scope, on the parents and on some
  part of each scope agree on that part of every chain;
* `schemaSet_registerSchema`: a registration leaves the schemas that a scope sees as
  they were, or makes the generation of that scope greater.

The second is why a generation stands for a schema set: it never comes back.

The compiler in force at a scope is that of the nearest scope with a binding
(`compiler?_eq_boundAt?`).  Trees only evolve: no scope goes away, none gets another
parent, and no binding is undone.  So a scope that is bound now and is the nearest one in
the end was the nearest one all the time (`boundAt?_of_evolves`).
-/

set_option autoImplicit false

namespace ReplySchema

/-! ## §1  Schema sets keep the generation they are made with -/

namespace Schema.Set

theorem generation_addSource (set : Set) (s : Source) :
    (set.addSource s).generation = set.generation := rfl

theorem generation_ofStores (stores : List Store) (generation : Nat) :
    (ofStores stores generation).generation = generation := by
  have hfold : ∀ (ss : List Source) (set : Set),
      (ss.foldl addSource set).generation = set.generation := by
    intro ss
    induction ss with
    | nil => intro set; rfl
    | cons s rest ih =>
        intro set
        rw [List.foldl_cons, ih, generation_addSource]
  exact hfold (sourcesOf stores) { generation }

end Schema.Set

namespace ScopeTree

/-! ## §2  Chains -/

theorem chain_of_none {tree : ScopeTree} {id : ScopeId} (h : tree.get? id = none) :
    tree.chain id = [] := by
  rw [chain, h]

theorem chain_of_some {tree : ScopeTree} {id : ScopeId} {scope : Scope}
    (h : tree.get? id = some scope) :
    tree.chain id = scope :: match scope.parent with
      | none => []
      | some parent => if parent.index < id.index then tree.chain parent else [] := by
  have hchain := chain.eq_def tree id
  rw [h] at hchain
  exact hchain

/-- Trees that agree on the parents and on a part `g` of each scope up to `id` agree on that
part of the chain of `id`. -/
theorem map_chain_congr {β : Type} (g : Scope → β) {t t' : ScopeTree} (id : ScopeId)
    (h : ∀ j : ScopeId, j.index ≤ id.index →
      (t'.get? j).map (fun s => (s.parent, g s)) = (t.get? j).map fun s => (s.parent, g s)) :
    (t'.chain id).map g = (t.chain id).map g := by
  have hid := h id (Nat.le_refl _)
  cases hs : t.get? id with
  | none =>
      cases hs' : t'.get? id with
      | none => rw [chain_of_none hs, chain_of_none hs']
      | some s' => simp [hs, hs'] at hid
  | some s =>
      cases hs' : t'.get? id with
      | none => simp [hs, hs'] at hid
      | some s' =>
          simp only [hs, hs', Option.map_some, Option.some.injEq, Prod.mk.injEq] at hid
          obtain ⟨hparent, hg⟩ := hid
          rw [chain_of_some hs, chain_of_some hs', hparent, List.map_cons, List.map_cons, hg]
          congr 1
          cases s.parent with
          | none => rfl
          | some parent =>
              by_cases hlt : parent.index < id.index
              · simp only [if_pos hlt]
                exact map_chain_congr g parent fun j hj => h j (by omega)
              · simp only [if_neg hlt, List.map_nil]
termination_by id.index

/-- Trees that agree up to `id` agree on the chain of `id`. -/
theorem chain_congr {t t' : ScopeTree} (id : ScopeId)
    (h : ∀ j : ScopeId, j.index ≤ id.index → t'.get? j = t.get? j) :
    t'.chain id = t.chain id := by
  have hmap := @map_chain_congr _ (fun s => s) t t' id fun j hj => by rw [h j hj]
  simpa using hmap

/-! ## §3  What is derived from a chain -/

theorem schemaSet_congr {t t' : ScopeTree} {id : ScopeId}
    (h : (t'.chain id).map (fun s => (s.schemas, s.generation)) =
      (t.chain id).map fun s => (s.schemas, s.generation)) :
    t'.schemaSet id = t.schemaSet id := by
  have hstores : (t'.chain id).map Scope.schemas = (t.chain id).map Scope.schemas := by
    simpa [List.map_map, Function.comp_def] using congrArg (List.map Prod.fst) h
  have hgenerations : (t'.chain id).map Scope.generation = (t.chain id).map Scope.generation := by
    simpa [List.map_map, Function.comp_def] using congrArg (List.map Prod.snd) h
  unfold schemaSet generation
  rw [List.map_reverse, List.map_reverse, hstores, hgenerations]

theorem generation_schemaSet (tree : ScopeTree) (id : ScopeId) :
    (tree.schemaSet id).generation = tree.generation id :=
  Schema.Set.generation_ofStores _ _

theorem findSome?_eq_of_map_eq {α β : Type} {f : α → Option β} {xs ys : List α}
    (h : xs.map f = ys.map f) : xs.findSome? f = ys.findSome? f := by
  have hid : ∀ zs : List α, zs.findSome? f = (zs.map f).findSome? fun o => o := by
    intro zs
    rw [List.findSome?_map]
    rfl
  rw [hid xs, hid ys, h]

theorem compiler?_congr {t t' : ScopeTree} {id : ScopeId}
    (h : (t'.chain id).map Scope.compiler = (t.chain id).map Scope.compiler) :
    t'.compiler? id = t.compiler? id :=
  findSome?_eq_of_map_eq h

/-! ## §4  The operations on a tree -/

theorem get_eq_ok {tree : ScopeTree} {id : ScopeId} {scope : Scope} :
    tree.get id = .ok scope ↔ tree.get? id = some scope := by
  unfold get
  cases h : tree.get? id <;> simp

theorem update_eq_ok {tree tree' : ScopeTree} {id : ScopeId} {change : Scope → Scope} :
    tree.update id change = .ok tree' ↔
      ∃ scope, tree.get? id = some scope ∧
        tree' = { scopes := tree.scopes.set id.index (change scope) } := by
  unfold update get
  cases h : tree.get? id with
  | none => simp [bind, Except.bind]
  | some scope => simp [bind, Except.bind, pure, Except.pure, eq_comm]

theorem get?_update {tree tree' : ScopeTree} {id : ScopeId} {change : Scope → Scope}
    (h : tree.update id change = .ok tree') (j : ScopeId) :
    tree'.get? j = if j = id then (tree.get? j).map change else tree.get? j := by
  obtain ⟨scope, hs, rfl⟩ := update_eq_ok.mp h
  unfold get? at hs ⊢
  by_cases hj : j = id
  · subst hj
    obtain ⟨hlt, hscope⟩ := List.getElem?_eq_some_iff.mp hs
    simp [hlt, hscope]
  · have hne : id.index ≠ j.index := by
      intro heq
      exact hj (by cases j; cases id; simp_all)
    simp [hj, hne]

theorem length_update {tree tree' : ScopeTree} {id : ScopeId} {change : Scope → Scope}
    (h : tree.update id change = .ok tree') : tree'.scopes.length = tree.scopes.length := by
  obtain ⟨scope, -, rfl⟩ := update_eq_ok.mp h
  simp

/-- A change that keeps the parent and the part `g` of a scope keeps `g` on every chain. -/
theorem map_chain_update {β : Type} (g : Scope → β) {tree tree' : ScopeTree} {id : ScopeId}
    {change : Scope → Scope} (h : tree.update id change = .ok tree')
    (hparent : ∀ s, (change s).parent = s.parent) (hg : ∀ s, g (change s) = g s)
    (j : ScopeId) : (tree'.chain j).map g = (tree.chain j).map g := by
  refine map_chain_congr g j fun k _ => ?_
  rw [get?_update h k]
  split
  · rw [Option.map_map]
    congr 1
    funext s
    simp [hparent, hg]
  · rfl

/-- A change is not seen by the scopes that are older than the changed one. -/
theorem chain_update_of_lt {tree tree' : ScopeTree} {id j : ScopeId} {change : Scope → Scope}
    (h : tree.update id change = .ok tree') (hlt : j.index < id.index) :
    tree'.chain j = tree.chain j := by
  refine chain_congr j fun k hk => ?_
  rw [get?_update h k, if_neg]
  rintro rfl
  omega

/-- A change that counts the generation of one scope up is seen as such on every chain, or not
at all. -/
theorem chain_update_cases {tree tree' : ScopeTree} {id : ScopeId} {change : Scope → Scope}
    (h : tree.update id change = .ok tree') (hparent : ∀ s, (change s).parent = s.parent)
    (hcount : ∀ s, (change s).generation = s.generation + 1) (j : ScopeId) :
    tree'.chain j = tree.chain j ∨ tree'.generation j = tree.generation j + 1 := by
  have hget := get?_update h j
  cases hs : tree.get? j with
  | none =>
      have hs' : tree'.get? j = none := by rw [hget, hs]; split <;> rfl
      exact Or.inl (by rw [chain_of_none hs, chain_of_none hs'])
  | some s =>
      by_cases hj : j = id
      -- the scope itself counts one more, and the chain above it is untouched
      · subst hj
        right
        have hs' : tree'.get? j = some (change s) := by rw [hget, hs, if_pos rfl]; rfl
        have hrest : (match (change s).parent with
            | none => []
            | some parent => if parent.index < j.index then tree'.chain parent else []) =
            match s.parent with
            | none => []
            | some parent => if parent.index < j.index then tree.chain parent else [] := by
          rw [hparent]
          cases s.parent with
          | none => rfl
          | some parent =>
              by_cases hlt : parent.index < j.index
              · simp only [if_pos hlt, chain_update_of_lt h hlt]
              · simp only [if_neg hlt]
        unfold generation
        rw [chain_of_some hs, chain_of_some hs', hrest, List.map_cons, List.map_cons,
          List.sum_cons, List.sum_cons, hcount]
        omega
      · have hs' : tree'.get? j = some s := by rw [hget, hs, if_neg hj]
        rw [chain_of_some hs, chain_of_some hs']
        unfold generation
        rw [chain_of_some hs, chain_of_some hs']
        -- any other scope sees the change if its parent does
        cases hp : s.parent with
        | none => exact Or.inl rfl
        | some parent =>
            by_cases hlt : parent.index < j.index
            · simp only [if_pos hlt, List.map_cons, List.sum_cons]
              rcases chain_update_cases h hparent hcount parent with heq | hgen
              · exact Or.inl (by rw [heq])
              · right
                unfold generation at hgen
                omega
            · exact Or.inl (by simp only [if_neg hlt])
termination_by j.index

/-- What a registration adds: one document to the store of one scope. -/
theorem registerSchema_document {tree tree' : ScopeTree} {scope : ScopeId} {root : Json}
    (h : tree.registerSchema scope root = .ok tree') :
    ∃ s store document id, tree.get? scope = some s ∧
      Schema.Document.ofShared? root = .ok document ∧ document.id = some id ∧
      store.documents = s.schemas.documents ++ [document] ∧
      tree.update scope (fun s => { s with schemas := store, generation := s.generation + 1 }) =
        .ok tree' := by
  obtain ⟨s, hs, h⟩ := Result.bind_eq_ok.mp h
  obtain ⟨document, hdocument, h⟩ := Result.bind_eq_ok.mp h
  have hdocument' := Result.mapError_eq_ok.mp hdocument
  split at h
  · exact absurd h Result.throw_ne_ok
  · obtain ⟨⟨store, registered⟩, hregister, h⟩ := Result.bind_eq_ok.mp h
    obtain ⟨document', hdocument'', hregister⟩ :=
      Result.bind_eq_ok.mp (Result.mapError_eq_ok.mp hregister)
    obtain rfl := Except.ok.inj (hdocument''.symm.trans hdocument')
    cases hid : document'.id with
    | none =>
        simp only [hid] at hregister
        cases hregister
    | some id =>
        simp only [hid] at hregister
        split at hregister
        · cases hregister
        · cases hregister
          exact ⟨s, _, _, id, get_eq_ok.mp hs, hdocument', hid, rfl, h⟩

/-- What a registration does to the tree: one store has its documents and its count changed. -/
theorem registerSchema_eq_ok {tree tree' : ScopeTree} {id : ScopeId} {root : Json}
    (h : tree.registerSchema id root = .ok tree') :
    ∃ store, tree.update id (fun s =>
      { s with schemas := store, generation := s.generation + 1 }) = .ok tree' := by
  obtain ⟨_, store, _, _, -, -, -, -, hu⟩ := registerSchema_document h
  exact ⟨store, hu⟩

/-- **Generations do not come back**: a registration leaves what a scope sees as it was, or the
generation of the scope grows. -/
theorem schemaSet_registerSchema {tree tree' : ScopeTree} {id : ScopeId} {root : Json}
    (h : tree.registerSchema id root = .ok tree') (j : ScopeId) :
    tree'.schemaSet j = tree.schemaSet j ∨ tree.generation j < tree'.generation j := by
  obtain ⟨store, hu⟩ := registerSchema_eq_ok h
  rcases chain_update_cases hu (fun _ => rfl) (fun _ => rfl) j with heq | hgen
  · exact Or.inl (schemaSet_congr (by rw [heq]))
  · exact Or.inr (by omega)

theorem compiler?_registerSchema {tree tree' : ScopeTree} {id : ScopeId} {root : Json}
    (h : tree.registerSchema id root = .ok tree') (j : ScopeId) :
    tree'.compiler? j = tree.compiler? j := by
  obtain ⟨store, hu⟩ := registerSchema_eq_ok h
  exact compiler?_congr (map_chain_update Scope.compiler hu (fun _ => rfl) (fun _ => rfl) j)

theorem length_registerSchema {tree tree' : ScopeTree} {id : ScopeId} {root : Json}
    (h : tree.registerSchema id root = .ok tree') :
    tree'.scopes.length = tree.scopes.length := by
  obtain ⟨store, hu⟩ := registerSchema_eq_ok h
  exact length_update hu

theorem child_eq_ok {tree tree' : ScopeTree} {parent id : ScopeId} {path : String}
    (h : tree.child parent path = .ok (tree', id)) :
    ∃ scope, tree' = { scopes := tree.scopes ++ [scope] } := by
  unfold child at h
  cases hs : tree.get parent with
  | error e => simp [hs, bind, Except.bind] at h
  | ok above =>
      simp only [hs, bind, Except.bind, pure, Except.pure, Except.ok.injEq, Prod.mk.injEq] at h
      exact ⟨_, h.1.symm⟩

theorem chain_child {tree tree' : ScopeTree} {parent id : ScopeId} {path : String}
    (h : tree.child parent path = .ok (tree', id)) {j : ScopeId}
    (hj : j.index < tree.scopes.length) : tree'.chain j = tree.chain j := by
  obtain ⟨scope, rfl⟩ := child_eq_ok h
  refine chain_congr j fun k hk => ?_
  unfold get?
  exact List.getElem?_append_left (by omega)

/-! ## §5  The nearest binding -/

/-- The nearest scope with a compiler of its own. -/
def boundAt? (tree : ScopeTree) (id : ScopeId) : Option ScopeId :=
  match tree.get? id with
  | none => none
  | some scope =>
      if scope.compiler.isSome then some id
      else
        match scope.parent with
        | none => none
        | some parent => if parent.index < id.index then tree.boundAt? parent else none
termination_by id.index

theorem boundAt?_of_some {tree : ScopeTree} {id : ScopeId} {scope : Scope}
    (h : tree.get? id = some scope) :
    tree.boundAt? id = if scope.compiler.isSome then some id
      else match scope.parent with
        | none => none
        | some parent => if parent.index < id.index then tree.boundAt? parent else none := by
  have hbound := boundAt?.eq_def tree id
  rw [h] at hbound
  exact hbound

def ownCompiler? (tree : ScopeTree) (id : ScopeId) : Option Compiler :=
  (tree.get? id).bind Scope.compiler

/-- **The compiler in force is that of the nearest binding.** -/
theorem compiler?_eq_boundAt? (tree : ScopeTree) (id : ScopeId) :
    tree.compiler? id = (tree.boundAt? id).bind tree.ownCompiler? := by
  cases hs : tree.get? id with
  | none =>
      have hbound : tree.boundAt? id = none := by rw [boundAt?, hs]
      rw [hbound, compiler?, chain_of_none hs]
      rfl
  | some scope =>
      rw [boundAt?_of_some hs, compiler?, chain_of_some hs, List.findSome?_cons]
      cases hc : scope.compiler with
      | some compiler =>
          have hown : tree.ownCompiler? id = some compiler := by rw [ownCompiler?, hs]; exact hc
          exact hown.symm
      | none =>
          rw [if_neg (by simp)]
          cases scope.parent with
          | none => rfl
          | some parent =>
              by_cases hlt : parent.index < id.index
              · simp only [if_pos hlt]
                exact compiler?_eq_boundAt? tree parent
              · simp only [if_neg hlt]
                rfl
termination_by id.index

/-! ## §6  Evolving trees -/

/-- Whether every scope of a tree is in another, with its parent and its compiler; a scope that may
be rebound may have another compiler, but not none. -/
def Evolves (rebound : ScopeId → Prop) (t t' : ScopeTree) : Prop :=
  ∀ j s, t.get? j = some s → ∃ s', t'.get? j = some s' ∧ s'.parent = s.parent ∧
    (s'.compiler = s.compiler ∨ rebound j ∧ s'.compiler.isSome = true)

variable {rebound rebound' : ScopeId → Prop} {t t' t'' : ScopeTree}

theorem Evolves.refl (rebound : ScopeId → Prop) (t : ScopeTree) : Evolves rebound t t :=
  fun _ s hs => ⟨s, hs, rfl, Or.inl rfl⟩

theorem Evolves.trans (h : Evolves rebound t t') (h' : Evolves rebound t' t'') :
    Evolves rebound t t'' := by
  intro j s hs
  obtain ⟨s', hs', hparent, hcompiler⟩ := h j s hs
  obtain ⟨s'', hs'', hparent', hcompiler'⟩ := h' j s' hs'
  refine ⟨s'', hs'', hparent'.trans hparent, ?_⟩
  rcases hcompiler' with heq | hrebound
  · rw [heq]
    exact hcompiler
  · exact Or.inr hrebound

theorem Evolves.mono (h : Evolves rebound t t') (hle : ∀ j, rebound j → rebound' j) :
    Evolves rebound' t t' := by
  intro j s hs
  obtain ⟨s', hs', hparent, hcompiler⟩ := h j s hs
  exact ⟨s', hs', hparent, hcompiler.imp_right fun hbound => ⟨hle j hbound.1, hbound.2⟩⟩

theorem evolves_update {id : ScopeId} {change : Scope → Scope}
    (h : t.update id change = .ok t') (hparent : ∀ s, (change s).parent = s.parent)
    (hcompiler : ∀ s, (change s).compiler = s.compiler ∨
      rebound id ∧ (change s).compiler.isSome = true) : Evolves rebound t t' := by
  intro j s hs
  rw [get?_update h j]
  by_cases hj : j = id
  · subst hj
    rw [if_pos rfl, hs]
    exact ⟨change s, rfl, hparent s, hcompiler s⟩
  · rw [if_neg hj]
    exact ⟨s, hs, rfl, Or.inl rfl⟩

theorem evolves_child {parent id : ScopeId} {path : String}
    (h : t.child parent path = .ok (t', id)) : Evolves rebound t t' := by
  obtain ⟨scope, rfl⟩ := child_eq_ok h
  intro j s hs
  refine ⟨s, ?_, rfl, Or.inl rfl⟩
  rw [get?, List.getElem?_append_left (List.getElem?_eq_some_iff.mp hs).1]
  exact hs

theorem Evolves.ownCompiler? (h : Evolves rebound t t') {j : ScopeId} {s : Scope}
    (hs : t.get? j = some s) (hj : ¬ rebound j) : t'.ownCompiler? j = t.ownCompiler? j := by
  obtain ⟨s', hs', -, hcompiler⟩ := h j s hs
  rw [ScopeTree.ownCompiler?, ScopeTree.ownCompiler?, hs, hs']
  exact hcompiler.resolve_right fun hbound => hj hbound.1

/-- **A binding that is the nearest in the end was the nearest before**, once it was there. -/
theorem boundAt?_of_evolves (h : Evolves rebound t t') {scope : ScopeId}
    (hscope : (t.ownCompiler? scope).isSome = true) (j : ScopeId) {s : Scope}
    (hs : t.get? j = some s) (hbound : t'.boundAt? j = some scope) :
    t.boundAt? j = some scope := by
  obtain ⟨s', hs', hparent, hcompiler⟩ := h j s hs
  rw [boundAt?_of_some hs'] at hbound
  rw [boundAt?_of_some hs]
  cases hc' : s'.compiler with
  | some compiler =>
      rw [hc', Option.isSome_some, if_pos rfl, Option.some.injEq] at hbound
      subst hbound
      rw [ScopeTree.ownCompiler?, hs] at hscope
      exact if_pos hscope
  | none =>
      have hc : s.compiler = none := by
        rcases hcompiler with heq | ⟨-, hsome⟩
        · rw [← heq, hc']
        · rw [hc'] at hsome
          cases hsome
      rw [hc', Option.isSome_none, if_neg Bool.false_ne_true, hparent] at hbound
      rw [hc, Option.isSome_none, if_neg Bool.false_ne_true]
      cases hp : s.parent with
      | none =>
          rw [hp] at hbound
          cases hbound
      | some parent =>
          simp only [hp] at hbound ⊢
          by_cases hlt : parent.index < j.index
          · rw [if_pos hlt] at hbound ⊢
            -- a parent is older, so it is in the tree as well
            have hlength : parent.index < t.scopes.length :=
              Nat.lt_trans hlt (List.getElem?_eq_some_iff.mp hs).1
            exact boundAt?_of_evolves h hscope parent (List.getElem?_eq_getElem hlength) hbound
          · rw [if_neg hlt] at hbound
            cases hbound
termination_by j.index

theorem Evolves.compiler? (h : Evolves rebound t t') (hrebound : ∀ j, ¬ rebound j) {id : ScopeId}
    (hid : id.index < t.scopes.length) : t'.compiler? id = t.compiler? id := by
  refine compiler?_congr (map_chain_congr Scope.compiler id fun j hj => ?_)
  have hs : t.get? j = some t.scopes[j.index] := List.getElem?_eq_getElem (by omega)
  obtain ⟨s', hs', hparent, hcompiler⟩ := h j _ hs
  rw [hs, hs', Option.map_some, Option.map_some, hparent,
    hcompiler.resolve_right fun hbound => hrebound j hbound.1]

end ScopeTree

end ReplySchema
