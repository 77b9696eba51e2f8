import ReplySchema.Proofs.Engine.Uniqueness

/-! # Versions of schema sets

The generation of a scope is the number of schemas that were registered on its way up.  It is a
sum over scopes, and such sums can be equal for different ways up.  On one engine they are not:
the way up from a scope never changes, and what was registered is never taken back.  So an
operation that gives a scope a schema makes its generation greater by one, every other operation
leaves the whole schema set as it was (`generation_of_feeds`, `schemaSet_of_not_feeds`), and a
generation that is met twice stands for one schema set.
-/

set_option autoImplicit false

namespace ReplySchema

/-! ## §1  What a registration does to the generations -/

namespace ScopeTree

variable {tree tree' : ScopeTree} {id : ScopeId}

theorem IsAbove.exists_get? {scope : ScopeId} (h : tree.IsAbove scope id) :
    ∃ s, tree.get? id = some s := by
  cases h with
  | self hs => exact ⟨_, hs⟩
  | parent hs _ _ _ => exact ⟨_, hs⟩

/-- **A registered schema counts once**, on each way up that meets its scope. -/
theorem generation_registerSchema {scope : ScopeId} {root : Json}
    (h : tree.registerSchema scope root = .ok tree') (habove : tree.IsAbove scope id) :
    tree'.generation id = tree.generation id + 1 := by
  obtain ⟨s, store, _, _, hs, -, -, -, hu⟩ := registerSchema_document h
  obtain ⟨t, ht⟩ := habove.exists_get?
  rcases chain_update_cases hu (fun _ => rfl) (fun _ => rfl) id with heq | hgen
  · -- the chain has the changed scope, so it cannot be as it was
    exfalso
    have hcount : ∀ t : ScopeTree, (t.chain id).map Scope.generation =
        (t.line id).map fun j => ((t.get? j).map Scope.generation).getD 0 :=
      fun t => map_chain_eq (fun j s hs => by rw [hs]; rfl) id
    have hsame := congrArg (List.map Scope.generation) heq
    rw [hcount, hcount, (registerSchema_changes h).line_eq ht, List.map_inj_left] at hsame
    have hscope := hsame scope ((isAbove_iff id).mp habove)
    rw [get?_update hu, if_pos rfl, hs] at hscope
    exact Nat.succ_ne_self _ hscope
  · exact hgen

/-- **A registration that gives no schema to a way up leaves its schema set as it was.** -/
theorem Alters.schemaSet_eq {r : Registration} (h : tree.Alters r tree') {s : Scope}
    (hs : tree.get? id = some s)
    (hnone : ∀ scope d, r.document? = some (scope, d) → ¬ tree.IsAbove scope id) :
    tree'.schemaSet id = tree.schemaSet id := by
  refine schemaSet_congr ?_
  rw [chain_eq_filterMap, chain_eq_filterMap, h.line_eq hs, List.map_filterMap, List.map_filterMap]
  refine List.filterMap_congr ?_
  intro j hj
  obtain ⟨t, ht⟩ := exists_of_mem_line id hj
  rw [h.get?_of_some ht, ht]
  by_cases hr : r.scope? = some j
  · rw [if_pos hr]
    cases hdocument : r.document? with
    | some gift =>
        obtain ⟨scope, d⟩ := gift
        have hplaced := Registration.isPlaced_document? r scope d hdocument
        obtain rfl : scope = j := Option.some.inj (hplaced.symm.trans hr)
        exact absurd ((isAbove_iff id).mpr hj) (hnone scope d hdocument)
    | none =>
        obtain ⟨hdocuments, hgeneration⟩ := r.documents_change t
        rw [hdocument] at hdocuments hgeneration
        have hstore : (r.change t).schemas = t.schemas :=
          congrArg Schema.Store.mk (hdocuments.trans (List.append_nil _))
        simp only [Option.map_some, hstore, hgeneration]
        rfl
  · rw [if_neg hr]

end ScopeTree

theorem Version.ofSet_congr {set set' : Schema.Set} (hgeneration : set'.generation = set.generation)
    (htexts : set'.sortedDocuments.map (fun p => (p.1, p.2.root.text)) =
      set.sortedDocuments.map fun p => (p.1, p.2.root.text)) : ofSet set' = ofSet set := by
  have hbytes := congrArg (List.flatMap fun p : String × String =>
    Text.Utf8.encode p.1 ++ Text.Utf8.encode p.2) htexts
  rw [List.flatMap_map, List.flatMap_map] at hbytes
  unfold ofSet Schema.Set.fingerprint
  rw [hgeneration, hbytes]

namespace Engine

/-! ## §2  What an operation does to the generations -/

/-- Whether an operation registers a schema on a scope or above it, and is not refused. -/
def Feeds (e : Engine) (operation : Operation) (id : ScopeId) : Prop :=
  ∃ scope root e', operation = .register (.registerSchema scope root) ∧
    e.registerSchema scope root = .ok e' ∧ e.scopes.IsAbove scope id

variable {e : Engine} {operation : Operation} {id : ScopeId} {s : Scope}

theorem scopes_registerSchema {e' : Engine} {scope : ScopeId} {root : Json}
    (h : e.registerSchema scope root = .ok e') :
    e.scopes.registerSchema scope root = .ok e'.scopes := by
  obtain ⟨scopes, hscopes, h⟩ := Result.bind_eq_ok.mp h
  rw [Result.pure_eq_ok] at h
  subst h
  exact hscopes

/-- Only a registration changes the scopes, and what it does is known. -/
theorem scopes_perform (e : Engine) (operation : Operation) :
    (e.perform operation).scopes = e.scopes ∨
      ∃ r, operation = .register r ∧ e.register? r = .ok (e.register r) ∧
        e.scopes.Alters r (e.perform operation).scopes := by
  cases operation with
  | register r =>
      rcases e.register_eq r with heq | hok
      · exact Or.inl (congrArg Engine.scopes heq)
      · exact Or.inr ⟨r, rfl, hok, alters_register? hok⟩
  | ready =>
      obtain ⟨ready, hengine, -⟩ := e.engine_makeReady
      have hscopes : e.makeReady.engine.scopes = e.scopes := by rw [hengine]
      exact Or.inl hscopes
  | _ => exact Or.inl rfl

theorem exists_scope_perform (hs : e.scopes.get? id = some s) (operation : Operation) :
    ∃ s', (e.perform operation).scopes.get? id = some s' := by
  rcases scopes_perform e operation with heq | ⟨r, -, -, halters⟩
  · exact ⟨s, heq ▸ hs⟩
  · exact ⟨_, halters.get?_of_some hs⟩

/-- **A schema that is given to a scope makes its generation greater by one.** -/
theorem generation_of_feeds (h : e.Feeds operation id) :
    (e.perform operation).scopes.generation id = e.scopes.generation id + 1 := by
  obtain ⟨scope, root, e', rfl, hok, habove⟩ := h
  have hregister : e.register (.registerSchema scope root) = e' := by
    unfold register
    rw [show e.register? (.registerSchema scope root) = .ok e' from hok]
    rfl
  show (e.register (.registerSchema scope root)).scopes.generation id = _
  rw [hregister]
  exact ScopeTree.generation_registerSchema (scopes_registerSchema hok) habove

/-- **Any other operation leaves the schema set of a scope as it was.** -/
theorem schemaSet_of_not_feeds (hs : e.scopes.get? id = some s) (h : ¬ e.Feeds operation id) :
    (e.perform operation).scopes.schemaSet id = e.scopes.schemaSet id := by
  rcases scopes_perform e operation with heq | ⟨r, rfl, hok, halters⟩
  · rw [heq]
  · refine halters.schemaSet_eq hs ?_
    intro scope d hdocument habove
    obtain ⟨root, rfl, -⟩ := Registration.eq_of_document? hdocument
    exact h ⟨scope, root, _, rfl, hok, habove⟩

/-! ## §3  Runs -/

/-- **A run leaves the schema set of a scope as it was, or makes its generation greater.** -/
theorem schemaSet_run (hs : e.scopes.get? id = some s) (operations : List Operation) :
    (e.run operations).scopes.schemaSet id = e.scopes.schemaSet id ∨
      e.scopes.generation id < (e.run operations).scopes.generation id := by
  refine (run_induct (T := fun e' => (∃ s', e'.scopes.get? id = some s') ∧
    (e'.scopes.schemaSet id = e.scopes.schemaSet id ∨
      e.scopes.generation id < e'.scopes.generation id)) ⟨⟨s, hs⟩, Or.inl rfl⟩ operations ?_).2
  rintro front operation - - ⟨⟨s', hs'⟩, hsince⟩
  refine ⟨exists_scope_perform hs' operation, ?_⟩
  have hle : e.scopes.generation id ≤ (e.run front).scopes.generation id := by
    rcases hsince with hset | hlt
    · rw [← ScopeTree.generation_schemaSet, ← ScopeTree.generation_schemaSet, hset]
    · exact hlt.le
  by_cases hfeeds : (e.run front).Feeds operation id
  · have hgeneration := generation_of_feeds hfeeds
    exact Or.inr (by omega)
  · have hset := schemaSet_of_not_feeds hs' hfeeds
    rcases hsince with hsame | hlt
    · exact Or.inl (hset.trans hsame)
    · refine Or.inr ?_
      rwa [← ScopeTree.generation_schemaSet (e.run front |>.perform operation).scopes, hset,
        ScopeTree.generation_schemaSet]

/-- **A version stands for one schema set**: of the operations of a run exactly those that register
a schema on the way up from a scope make its generation greater, the others keep it, and where its
version is the same at two moments of the run it sees the same schemas. -/
theorem version_determines_schemas (config : EngineConfig) (front back : List Operation)
    {id : ScopeId} {s : Scope} (hs : ((ofConfig config).run front).scopes.get? id = some s) :
    let e := (ofConfig config).run front
    let set := e.scopes.schemaSet id
    let set' := (e.run back).scopes.schemaSet id
    (∀ operation, e.Feeds operation id →
        e.scopes.generation id < (e.perform operation).scopes.generation id) ∧
      (∀ operation, ¬ e.Feeds operation id →
        (e.perform operation).scopes.generation id = e.scopes.generation id) ∧
      (Version.ofSet set' = Version.ofSet set →
        set'.documents = set.documents ∧ set'.embedded = set.embedded ∧
          ∀ reference base, set'.resolve reference base = set.resolve reference base) := by
  intro e set set'
  refine ⟨?_, ?_, ?_⟩
  · intro operation hfeeds
    have hgeneration := generation_of_feeds hfeeds
    omega
  · intro operation hnot
    rw [← ScopeTree.generation_schemaSet, schemaSet_of_not_feeds hs hnot,
      ScopeTree.generation_schemaSet]
  · intro hversion
    have hgeneration : set'.generation = set.generation := congrArg Version.generation hversion
    have hset : set' = set := by
      rcases schemaSet_run hs back with hsame | hlt
      · exact hsame
      · rw [← ScopeTree.generation_schemaSet, ← ScopeTree.generation_schemaSet] at hlt
        exact absurd hgeneration hlt.ne'
    rw [hset]
    exact ⟨rfl, rfl, fun _ _ => rfl⟩

def oneSchema : List Operation := [
  .register (.childScope .root "/a"),
  .register (.registerSchema ⟨1⟩ (namedType "a" "string"))]

/-- A schema beside the scope, and one that is refused because its identifier is taken. -/
def noneAbove : List Operation := [
  .register (.childScope .root "/b"),
  .register (.registerSchema ⟨2⟩ (namedType "b" "string")),
  .register (.registerSchema ⟨1⟩ (namedType "a" "integer"))]

def oneAbove : Operation := .register (.registerSchema .root (namedType "c" "string"))

/-- A schema of the root makes the generation of the scope greater, and the others leave its
version and its documents. -/
theorem version_determines_schemas_beside :
    (∃ s, ((ofConfig {}).run oneSchema).scopes.get? ⟨1⟩ = some s) ∧
      ((ofConfig {}).run oneSchema).Feeds oneAbove ⟨1⟩ ∧
      ((ofConfig {}).run oneSchema).scopes.generation ⟨1⟩ <
        (((ofConfig {}).run oneSchema).perform oneAbove).scopes.generation ⟨1⟩ ∧
      Version.ofSet ((((ofConfig {}).run oneSchema).run noneAbove).scopes.schemaSet ⟨1⟩) =
        Version.ofSet (((ofConfig {}).run oneSchema).scopes.schemaSet ⟨1⟩) ∧
      ((((ofConfig {}).run oneSchema).run noneAbove).scopes.schemaSet ⟨1⟩).documents =
        (((ofConfig {}).run oneSchema).scopes.schemaSet ⟨1⟩).documents := by
  obtain ⟨s, hs⟩ := Option.isSome_iff_exists.mp
    (show (((ofConfig {}).run oneSchema).scopes.get? ⟨1⟩).isSome = true by decide +kernel)
  have hline : ((ofConfig {}).run oneSchema).scopes.line ⟨1⟩ = [⟨1⟩, .root] := by
    decide +kernel
  have habove : ((ofConfig {}).run oneSchema).scopes.IsAbove .root ⟨1⟩ := by
    rw [ScopeTree.isAbove_iff, hline]
    exact List.mem_cons_of_mem _ List.mem_cons_self
  have haccepted : (((ofConfig {}).run oneSchema).registerSchema .root
      (namedType "c" "string")).toOption.isSome = true := by
    decide +kernel
  obtain ⟨e', hok⟩ := Option.isSome_iff_exists.mp haccepted
  have hfeeds : ((ofConfig {}).run oneSchema).Feeds oneAbove ⟨1⟩ :=
    ⟨.root, namedType "c" "string", e', rfl, Result.toOption_eq_some.mp hok, habove⟩
  have hversion : Version.ofSet ((((ofConfig {}).run oneSchema).run noneAbove).scopes.schemaSet
      ⟨1⟩) = Version.ofSet (((ofConfig {}).run oneSchema).scopes.schemaSet ⟨1⟩) :=
    Version.ofSet_congr (by decide +kernel) (by decide +kernel)
  obtain ⟨hgrows, -, hsame⟩ := version_determines_schemas {} oneSchema noneAbove hs
  exact ⟨⟨s, hs⟩, hfeeds, hgrows oneAbove hfeeds, hversion, (hsame hversion).1⟩

end Engine

end ReplySchema
