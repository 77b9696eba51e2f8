import ReplySchema.Proofs.Engine.History

/-! # Identifiers on a chain

A document is refused if its identifier is known to the scope that it is meant for.  That scope
looks upwards, and does not know what the scopes below it have.  So two documents of a chain can
have one identifier, but only if the inner one came first (`Overtakes`), and then the outer one is
not found by the scopes below the inner.

`Spares` says what the check gives for two registrations, and it holds of any two that were made
one after the other (`spares_registerAll`).  All identifiers of a chain are different if and only if
there was no overtaking, and then every document is found by its own (`documents_unique`).

The check brings the identifier to normal form once more.  Only for identifiers that are normal
does it look for the right one.
-/

set_option autoImplicit false

namespace ReplySchema

open Registration (document?)
open Schema (Document Set)

/-! ## §1  Registrations of one identifier -/

/-- Whether an identifier is its own normal form. -/
def Schema.Document.IsNormal (d : Document) : Prop :=
  ∀ x, d.id = some x → Identifier.canonical x = x

/-- Whether two registrations on one way up give documents of one identifier, and the second goes
further out. -/
def Registration.Overtakes (line : List ScopeId) (r r' : Registration) : Prop :=
  ∃ inner d outer d', r.document? = some (inner, d) ∧ r'.document? = some (outer, d') ∧
    d.id = d'.id ∧ inner ∈ line ∧ outer ∈ line ∧ outer.index < inner.index

/-- Whether two registrations that give documents of one identifier are about different scopes, and
the first not about one above that of the second. -/
def ScopeTree.Spares (tree : ScopeTree) (r r' : Registration) : Prop :=
  ∀ earlier d later d', r.document? = some (earlier, d) → r'.document? = some (later, d') →
    d.id = d'.id → earlier ≠ later ∧ (d.IsNormal → ¬ tree.IsAbove earlier later)

theorem Schema.Document.id_of_ofShared? {root : Json} {d : Document}
    (h : Document.ofShared? root = .ok d) : ∃ x, d.id = some x := by
  unfold ofShared? at h
  split at h
  · rename_i x _
    cases h
    exact ⟨x, rfl⟩
  · cases h

theorem Registration.eq_of_document? {r : Registration} {scope : ScopeId} {d : Document}
    (h : r.document? = some (scope, d)) :
    ∃ root, r = .registerSchema scope root ∧ Document.ofShared? root = .ok d := by
  cases r <;> simp [document?, Result.toOption_eq_some] at h
  exact ⟨_, by rw [h.2], h.1⟩

namespace ScopeTree

variable {past : List Registration} {r : Registration} {tree tree' : ScopeTree}

theorem Recorded.contains (h : tree.Recorded past) {scope id : ScopeId} {d : Document} {x : String}
    (hd : d ∈ givenTo document? past scope) (hid : d.id = some x) (hx : Identifier.canonical x = x)
    (habove : tree.IsAbove scope id) : (tree.schemaSet id).contains x = true := by
  have hmem : d ∈ tree.documents id := by
    rw [h.documents_eq]
    exact List.mem_flatMap.mpr ⟨scope, List.mem_reverse.mpr ((isAbove_iff id).mp habove), hd⟩
  have hsome : ((tree.documents id).reverse.find? fun d => decide (d.id = some x)).isSome := by
    rw [List.find?_isSome]
    exact ⟨d, List.mem_reverse.mpr hmem, decide_eq_true hid⟩
  unfold Set.contains Set.document?
  rw [hx]
  rwa [← find?_documents_schemaSet, Option.isSome_map] at hsome

/-- **The check**: the identifier of a registered document is not visible, nor is it in the store. -/
theorem registerSchema_checked {scope : ScopeId} {root : Json}
    (h : tree.registerSchema scope root = .ok tree') :
    ∃ s document x, tree.get? scope = some s ∧ Document.ofShared? root = .ok document ∧
      document.id = some x ∧ (tree.schemaSet scope).contains x = false ∧
      ∀ other ∈ s.schemas.documents, other.id ≠ some x := by
  obtain ⟨s, hs, h⟩ := Result.bind_eq_ok.mp h
  obtain ⟨document, hdocument, h⟩ := Result.bind_eq_ok.mp h
  have hdocument' := Result.mapError_eq_ok.mp hdocument
  obtain ⟨x, hx⟩ := Document.id_of_ofShared? hdocument'
  refine ⟨s, document, x, get_eq_ok.mp hs, hdocument', hx, ?_⟩
  split at h
  · exact absurd h Result.throw_ne_ok
  · rename_i hvisible
    obtain ⟨⟨store, registered⟩, hregister, -⟩ := Result.bind_eq_ok.mp h
    obtain ⟨document', hdocument'', hregister⟩ :=
      Result.bind_eq_ok.mp (Result.mapError_eq_ok.mp hregister)
    obtain rfl := Except.ok.inj (hdocument''.symm.trans hdocument')
    rw [hx, Option.filter_some] at hvisible
    simp only [hx] at hregister
    constructor
    · simpa using hvisible
    · intro other hother heq
      rw [if_pos (List.any_eq_true.mpr ⟨other, hother, by simpa using heq⟩)] at hregister
      cases hregister

/-- **A registration spares those before it.** -/
theorem Recorded.spares (h : tree.Recorded past) {scope : ScopeId} {root : Json}
    (hstep : tree.registerSchema scope root = .ok tree') {r' : Registration} (hr' : r' ∈ past) :
    tree.Spares r' (.registerSchema scope root) := by
  obtain ⟨s, document, x, hs, hdocument, hx, hvisible, hstore⟩ := registerSchema_checked hstep
  intro earlier d later d' hgift hgift' hid
  have hd : d ∈ givenTo document? past earlier := mem_givenTo.mpr ⟨r', hr', hgift⟩
  simp only [document?, hdocument, Except.toOption, Option.map_some, Option.some.injEq,
    Prod.mk.injEq] at hgift'
  obtain ⟨rfl, rfl⟩ := hgift'
  constructor
  · rintro rfl
    rw [← (h.holds _ s hs).documents] at hd
    exact hstore d hd (hid.trans hx)
  · intro hnormal habove
    have hcontains := h.contains hd (hid.trans hx) (hnormal x (hid.trans hx)) habove
    rw [hvisible] at hcontains
    cases hcontains

theorem Alters.spares (h : tree.Alters r tree') {r₁ r₂ : Registration}
    (hknown : ∀ scope, r₂.scope? = some scope → ∃ s, tree.get? scope = some s)
    (hspares : tree.Spares r₁ r₂) : tree'.Spares r₁ r₂ := by
  intro earlier d later d' hgift hgift' hid
  obtain ⟨hne, hnormal⟩ := hspares earlier d later d' hgift hgift' hid
  refine ⟨hne, ?_⟩
  obtain ⟨s, hs⟩ := hknown later (Registration.isPlaced_document? r₂ later d' hgift')
  rwa [isAbove_iff, h.line_eq hs, ← isAbove_iff]

end ScopeTree

namespace Engine

/-- **Every registration of a history spares those before it.** -/
theorem spares_registerAll (config : EngineConfig) (registrations : List Registration) :
    ((ofConfig config).accepted registrations).Pairwise
      ((ofConfig config).registerAll registrations).scopes.Spares := by
  refine (accepted_induct (T := fun e past => e.scopes.Recorded past ∧
    past.Pairwise e.scopes.Spares) ?_ registrations (ofConfig config) []
      ⟨ScopeTree.Recorded.root, List.Pairwise.nil⟩).2
  rintro e e' past r ⟨hrecorded, hpast⟩ hr
  have halters := alters_register? hr
  refine ⟨hrecorded.alters halters, ?_⟩
  rw [List.pairwise_append]
  refine ⟨?_, List.pairwise_singleton _ _, ?_⟩
  · refine hpast.imp_of_mem ?_
    intro r₁ r₂ _ hr₂ hspares
    exact halters.spares (hrecorded.known r₂ hr₂) hspares
  · intro r' hr' r'' hr''
    obtain rfl := List.mem_singleton.mp hr''
    refine halters.spares (fun scope => halters.exists_scope) ?_
    cases r'' with
    | registerSchema scope root =>
        obtain ⟨scopes, hscopes, -⟩ := Result.bind_eq_ok.mp hr
        exact hrecorded.spares hscopes hr'
    | _ =>
        intro earlier d later d' _ hgift
        cases hgift

end Engine

/-! ## §2  The documents of a chain -/

/-- Whether two registrations on one way up give documents of different identifiers. -/
def Registration.Differ (line : List ScopeId) (r r' : Registration) : Prop :=
  ∀ scope d scope' d', r.document? = some (scope, d) → r'.document? = some (scope', d') →
    scope ∈ line → scope' ∈ line → d.id ≠ d'.id

theorem Registration.Differ.symm {line : List ScopeId} {r r' : Registration}
    (h : r.Differ line r') : r'.Differ line r :=
  fun _ _ _ _ hd hd' hscope hscope' => (h _ _ _ _ hd' hd hscope' hscope).symm

instance (line : List ScopeId) : Std.Symm (Registration.Differ line) :=
  ⟨fun _ _ h => h.symm⟩

theorem pairwise_givenTo_iff {past : List Registration} {scope : ScopeId} :
    (givenTo document? past scope).Pairwise (fun d d' => d.id ≠ d'.id) ↔
      past.Pairwise (Registration.Differ [scope]) := by
  unfold givenTo
  rw [List.filterMap_filterMap, List.pairwise_filterMap]
  constructor
  · intro h
    refine h.imp ?_
    intro r r' hdiffer j d k d' hd hd' hj hk
    obtain rfl := List.mem_singleton.mp hj
    obtain rfl := List.mem_singleton.mp hk
    exact hdiffer d (by simp [hd]) d' (by simp [hd'])
  · intro h
    refine h.imp ?_
    intro r r' hdiffer d hd d' hd'
    obtain ⟨⟨j, v⟩, hgift, hd⟩ := Option.bind_eq_some_iff.mp hd
    obtain ⟨⟨k, v'⟩, hgift', hd'⟩ := Option.bind_eq_some_iff.mp hd'
    simp only [Option.ite_none_right_eq_some, Option.some.injEq] at hd hd'
    obtain ⟨rfl, rfl⟩ := hd
    obtain ⟨rfl, rfl⟩ := hd'
    exact hdiffer _ v _ v' hgift hgift' (List.mem_singleton_self _) (List.mem_singleton_self _)

/-- **The documents of a chain have different identifiers if the registrations give such.** -/
theorem ScopeTree.Recorded.nodup_documents_iff {past : List Registration} {tree : ScopeTree}
    (h : tree.Recorded past) (id : ScopeId) :
    ((tree.documents id).map Document.id).Nodup ↔
      past.Pairwise (Registration.Differ (tree.line id)) := by
  rw [h.documents_eq, List.Nodup, List.pairwise_map, List.pairwise_flatMap]
  constructor
  · rintro ⟨hown, hothers⟩
    have hsymm : Std.Symm fun j k : ScopeId => ∀ d ∈ givenTo document? past j,
        ∀ d' ∈ givenTo document? past k, d.id ≠ d'.id :=
      ⟨fun j k hne d hd d' hd' => (hne d' hd' d hd).symm⟩
    rw [List.pairwise_iff_forall_sublist]
    intro r r' hsublist j d k d' hd hd' hj hk
    by_cases heq : j = k
    · subst heq
      have hdiffer := List.pairwise_iff_forall_sublist.mp
        (pairwise_givenTo_iff.mp (hown j (List.mem_reverse.mpr hj))) hsublist
      exact hdiffer j d j d' hd hd' (List.mem_singleton_self j) (List.mem_singleton_self j)
    · exact hothers.forall (List.mem_reverse.mpr hj) (List.mem_reverse.mpr hk) heq
        d (mem_givenTo.mpr ⟨r, hsublist.subset List.mem_cons_self, hd⟩)
        d' (mem_givenTo.mpr ⟨r', hsublist.subset (by simp), hd'⟩)
  · intro hdiffer
    constructor
    · intro j hj
      rw [pairwise_givenTo_iff]
      refine hdiffer.imp ?_
      intro r r' hrr k d k' d' hd hd' hk hk'
      have hline : ∀ scope ∈ [j], scope ∈ tree.line id := by
        intro scope hscope
        rw [List.mem_singleton.mp hscope]
        exact List.mem_reverse.mp hj
      exact hrr k d k' d' hd hd' (hline k hk) (hline k' hk')
    · rw [List.pairwise_reverse]
      refine (pairwise_line tree id).imp_of_mem ?_
      intro j k hj hk hlt d hd d' hd'
      obtain ⟨r, hr, hgift⟩ := mem_givenTo.mp hd
      obtain ⟨r', hr', hgift'⟩ := mem_givenTo.mp hd'
      have hne : r ≠ r' := by
        rintro rfl
        rw [hgift, Option.some.injEq, Prod.mk.injEq] at hgift'
        rw [hgift'.1] at hlt
        exact Nat.lt_irrefl _ hlt
      exact hdiffer.forall hr hr' hne k d j d' hgift hgift' hk hj

/-! ## §3  Uniqueness -/

namespace Engine

/-- **Identifiers are unique where they are visible, but for overtaking**: of two documents with one
identifier on a way up the later one is further out.  If there are none, no document of the chain
is lost in the merge. -/
theorem documents_unique (config : EngineConfig) (registrations : List Registration) (id : ScopeId)
    (hnormal : ∀ d ∈ ((ofConfig config).registerAll registrations).scopes.documents id,
      d.IsNormal) :
    let e := (ofConfig config).registerAll registrations
    let past := (ofConfig config).accepted registrations
    let line := e.scopes.line id
    past.Pairwise (fun r r' => r.Differ line r' ∨ r.Overtakes line r') ∧
      (((e.scopes.documents id).map Document.id).Nodup ↔
        past.Pairwise fun r r' => ¬ r.Overtakes line r') ∧
      (((e.scopes.documents id).map Document.id).Nodup →
        ∀ d ∈ e.scopes.documents id, ∃ x, d.id = some x ∧
          (Table.find? x (e.scopes.schemaSet id).documents).map Schema.Source.document =
            some d) := by
  intro e past line
  have hrecorded := recorded_registerAll config registrations
  have hovertakes : past.Pairwise fun r r' => r.Differ line r' ∨ r.Overtakes line r' := by
    refine (spares_registerAll config registrations).imp_of_mem ?_
    intro r r' hr hr' hspares
    by_cases hdiffer : r.Differ line r'
    · exact Or.inl hdiffer
    · right
      unfold Registration.Differ at hdiffer
      push Not at hdiffer
      obtain ⟨inner, d, outer, d', hgift, hgift', hinner, houter, hid⟩ := hdiffer
      obtain ⟨hne, habove⟩ := hspares inner d outer d' hgift hgift' hid
      have hd : d ∈ e.scopes.documents id := by
        rw [hrecorded.documents_eq]
        exact List.mem_flatMap.mpr
          ⟨inner, List.mem_reverse.mpr hinner, mem_givenTo.mpr ⟨r, hr, hgift⟩⟩
      refine ⟨inner, d, outer, d', hgift, hgift', hid, hinner, houter, ?_⟩
      -- A document further in would have seen the one further out when it was registered.
      by_contra hle
      have hline := ScopeTree.mem_line_of_index_le id hinner houter (Nat.le_of_not_lt hle)
      exact habove (hnormal d hd) ((ScopeTree.isAbove_iff outer).mpr hline)
  refine ⟨hovertakes, ?_, ?_⟩
  -- one place in the merge for each document, if none overtakes another
  · rw [hrecorded.nodup_documents_iff]
    constructor
    · intro hdiffer
      refine hdiffer.imp ?_
      rintro r r' hrr ⟨inner, d, outer, d', hgift, hgift', hid, hinner, houter, -⟩
      exact hrr inner d outer d' hgift hgift' hinner houter hid
    · intro hnone
      refine (hovertakes.and hnone).imp ?_
      rintro r r' ⟨hrr | hrr, hnot⟩
      · exact hrr
      · exact absurd hrr hnot
  · intro hnodup d hd
    obtain ⟨j, -, hgiven⟩ := List.mem_flatMap.mp (hrecorded.documents_eq id ▸ hd)
    obtain ⟨r, -, hgift⟩ := mem_givenTo.mp hgiven
    obtain ⟨root, -, hroot⟩ := Registration.eq_of_document? hgift
    obtain ⟨x, hx⟩ := Document.id_of_ofShared? hroot
    refine ⟨x, hx, ?_⟩
    rw [ScopeTree.find?_documents_schemaSet]
    exact (Set.find?_eq_some_iff_of_nodup hnodup).mpr ⟨hd, hx⟩

def namedType (id type : String) : Json :=
  .object [("$id", .string id), ("type", .string type)]

/-- An identifier of the root and another below it; the third registration is refused. -/
def spared : List Registration := [
  .childScope .root "/a",
  .registerSchema .root (namedType "a" "string"),
  .registerSchema ⟨1⟩ (namedType "a" "integer"),
  .registerSchema ⟨1⟩ (namedType "b" "integer")]

/-- Both documents keep their identifiers. -/
theorem documents_unique_spared :
    (∀ d ∈ ((ofConfig {}).registerAll spared).scopes.documents ⟨1⟩, d.IsNormal) ∧
      ((((ofConfig {}).registerAll spared).scopes.documents ⟨1⟩).map Document.id).Nodup ∧
      (((ofConfig {}).accepted spared).Pairwise fun r r' =>
        ¬ r.Overtakes (((ofConfig {}).registerAll spared).scopes.line ⟨1⟩) r') := by
  have hids : ((((ofConfig {}).registerAll spared).scopes.documents ⟨1⟩).map Document.id) =
      [some "a", some "b"] := by
    decide +kernel
  have hnormal : ∀ d ∈ ((ofConfig {}).registerAll spared).scopes.documents ⟨1⟩, d.IsNormal := by
    have hall : ((((ofConfig {}).registerAll spared).scopes.documents ⟨1⟩).all fun d =>
        d.id.all fun x => Identifier.canonical x == x) = true := by
      decide +kernel
    intro d hd x hx
    have hd := List.all_eq_true.mp hall d hd
    rw [hx] at hd
    simpa using hd
  have hnodup : ((((ofConfig {}).registerAll spared).scopes.documents ⟨1⟩).map
      Document.id).Nodup := by
    rw [hids]
    decide
  exact ⟨hnormal, hnodup, (documents_unique {} spared ⟨1⟩ hnormal).2.1.mp hnodup⟩

/-- An identifier is registered below the root, and then at the root. -/
def overtaken : List Registration := [
  .childScope .root "/a",
  .registerSchema ⟨1⟩ (namedType "a" "integer"),
  .registerSchema .root (namedType "a" "string")]

/-- **Identifiers are not unique where they are visible**: the check does not look below. -/
theorem not_documents_unique :
    ¬ ∀ (config : EngineConfig) (registrations : List Registration) (id : ScopeId),
      let e := (ofConfig config).registerAll registrations
      ((e.scopes.documents id).map Document.id).Nodup ∧
        ∀ d ∈ e.scopes.documents id, ∀ x, d.id = some x →
          (Table.find? x (e.scopes.schemaSet id).documents).map Schema.Source.document =
            some d := by
  intro hall
  have hids : ((((ofConfig {}).registerAll overtaken).scopes.documents ⟨1⟩).map Document.id) =
      [some "a", some "a"] := by
    decide +kernel
  have hnodup := (hall {} overtaken ⟨1⟩).1
  rw [hids] at hnodup
  exact absurd hnodup (by decide)

end Engine

end ReplySchema
