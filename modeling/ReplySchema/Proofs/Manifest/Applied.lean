import ReplySchema.Manifest.Basic
import ReplySchema.Proofs.Engine.Uniqueness
import ReplySchema.Proofs.Schema.Order
import ReplySchema.Proofs.Scope.Address

/-! # What is left of a manifest

A manifest that is applied to a fresh engine leaves one route for each that it declares, in the
order of the declarations (`declared`), and each sees the schemas of the entries around it.

Applying an entry only adds to an engine, and of the scopes that are there it touches its own alone
(`Adds`).  So what a route was given when it was added is what it has at the end.

The address of a route is made of the paths of the entries around it, but for the outermost: that
is the root, which is there already.  A path that is declared for it is read and is not used
(`not_realizes_outermost`).
-/

set_option autoImplicit false

namespace ReplySchema

open Schema (Document Store)

-- Sums are those of the core library, whatever else is imported.
attribute [local instance (high)] Zero.ofOfNat0

/-! ## §1  What a manifest declares -/

namespace ScopeEntry

/-- A declared route with the entries around it, the outermost first. -/
structure Declared where
  route : RouteEntry
  within : List ScopeEntry

mutual
/-- The routes that an entry declares, those of its children behind its own. -/
def declared (outer : List ScopeEntry) : ScopeEntry → List Declared
  | entry path schemas routes children =>
      routes.map (⟨·, outer ++ [entry path schemas routes children]⟩) ++
        declaredBelow (outer ++ [entry path schemas routes children]) children

def declaredBelow (outer : List ScopeEntry) : List ScopeEntry → List Declared
  | [] => []
  | child :: rest => declared outer child ++ declaredBelow outer rest
end

def documents (e : ScopeEntry) : List Document := e.schemas.map Document.shared

/-- The prefix that entries make, the outermost of them for the root. -/
def prefixOf (within : List ScopeEntry) : String := Address.under (within.tail.map path)

mutual
theorem length_declared (outer : List ScopeEntry) : ∀ entry : ScopeEntry,
    (declared outer entry).length = entry.routeCount
  | entry path schemas routes children => by
      rw [declared, routeCount, List.length_append, List.length_map, length_declaredBelow]

theorem length_declaredBelow (outer : List ScopeEntry) : ∀ children : List ScopeEntry,
    (declaredBelow outer children).length = routeCounts children
  | [] => by rw [declaredBelow, routeCounts, List.length_nil]
  | child :: rest => by
      rw [declaredBelow, routeCounts, List.length_append, length_declared,
        length_declaredBelow]
end

/-- What the scopes of entries have registered, the innermost first: stores, and counts of them. -/
def shares (within : List ScopeEntry) : List (Store × Nat) :=
  (within.map fun entry => ({ documents := entry.documents }, entry.schemas.length)).reverse

theorem shares_concat (outer : List ScopeEntry) (entry : ScopeEntry) : shares (outer ++ [entry]) =
    ({ documents := entry.documents }, entry.schemas.length) :: shares outer := by
  unfold shares
  rw [List.map_append, List.reverse_append]
  rfl

theorem prefixOf_concat {outer : List ScopeEntry} (h : outer ≠ []) (entry : ScopeEntry) :
    prefixOf (outer ++ [entry]) = Address.join (prefixOf outer) entry.path := by
  unfold prefixOf
  rw [List.tail_append_of_ne_nil h, List.map_append, List.map_singleton, Address.under_concat]

end ScopeEntry

/-! ## §2  What a scope shows -/

theorem Schema.Document.eq_shared_of_ofShared? {root : Json} {d : Document}
    (h : Document.ofShared? root = .ok d) : d = Document.shared root := by
  unfold ofShared? at h
  split at h
  · next x hx =>
      rw [← Except.ok.inj h, Document.shared, hx]
  · cases h

namespace ScopeTree

open ScopeEntry (Declared)

def shared (s : Scope) : Store × Nat := (s.schemas, s.generation)

/-- What a route finds at its scope: a prefix, and what is registered on the way up.  The documents
there have identifiers, and different ones if these are normal. -/
structure Shows (tree : ScopeTree) (id : ScopeId) (address : String)
    (shares : List (Store × Nat)) : Prop where
  address : (tree.get? id).map Scope.address = some address
  shares : (tree.chain id).map shared = shares
  named : ∀ d ∈ tree.documents id, ∃ x, d.id = some x
  apart : (∀ d ∈ tree.documents id, d.IsNormal) → ((tree.documents id).map Document.id).Nodup

variable {tree tree' : ScopeTree} {id parent : ScopeId} {address path : String} {root : Json}
  {store : Store} {n : Nat} {shares : List (Store × Nat)}

theorem Shows.documents (h : tree.Shows id address shares) :
    tree.documents id = shares.reverse.flatMap fun share => share.1.documents := by
  rw [← h.shares, ← List.map_reverse, List.flatMap_map]
  unfold ScopeTree.documents Schema.Set.documentsOf
  rw [List.flatMap_map]
  rfl

theorem Shows.congr (h : tree.Shows id address shares)
    (hsame : ∀ j : ScopeId, j.index ≤ id.index → tree'.get? j = tree.get? j) :
    tree'.Shows id address shares := by
  have hchain : tree'.chain id = tree.chain id := chain_congr id hsame
  have hdocuments : tree'.documents id = tree.documents id := by
    unfold ScopeTree.documents
    rw [hchain]
  exact ⟨by rw [hsame id (Nat.le_refl _), h.address], by rw [hchain, h.shares],
    hdocuments ▸ h.named, hdocuments ▸ h.apart⟩

theorem Shows.index_lt (h : tree.Shows id address shares) : id.index < tree.scopes.length := by
  obtain ⟨s, hs, -⟩ := Option.map_eq_some_iff.mp h.address
  exact exists_get?_iff.mp ⟨s, hs⟩

/-- Where a new scope stands: behind all others. -/
theorem get?_child (h : tree.child parent path = .ok (tree', id)) :
    ∃ above, tree.get? parent = some above ∧
      tree'.get? id = some { parent := some parent, address := Address.join above.address path } ∧
      id.index = tree.scopes.length ∧ tree'.scopes.length = tree.scopes.length + 1 ∧
      ∀ j : ScopeId, j.index < tree.scopes.length → tree'.get? j = tree.get? j := by
  obtain ⟨above, habove, hmade⟩ := Result.bind_eq_ok.mp h
  rw [Result.pure_eq_ok, Prod.mk.injEq] at hmade
  obtain ⟨rfl, rfl⟩ := hmade
  exact ⟨above, get_eq_ok.mp habove, List.getElem?_concat_length, rfl, List.length_append,
    fun j hj => List.getElem?_append_left hj⟩

/-- A new scope shows what its parent shows, behind a share of its own that is empty. -/
theorem Shows.child (h : tree.Shows parent address shares)
    (hchild : tree.child parent path = .ok (tree', id)) :
    tree'.Shows id (Address.join address path) (({}, 0) :: shares) := by
  obtain ⟨above, habove, hnew, hid, -, holder⟩ := get?_child hchild
  have hlt : parent.index < id.index := hid ▸ h.index_lt
  have hparent : tree'.Shows parent address shares :=
    h.congr fun j hj => holder j (Nat.lt_of_le_of_lt hj h.index_lt)
  have hchain := chain_of_some hnew
  simp only [if_pos hlt] at hchain
  have hshares : (tree'.chain id).map shared = ({}, 0) :: shares := by
    rw [hchain, List.map_cons, hparent.shares]
    rfl
  have hdocuments : tree'.documents id = tree'.documents parent := by
    unfold ScopeTree.documents Schema.Set.documentsOf
    rw [hchain, List.reverse_cons, List.map_append, List.flatMap_append]
    exact List.append_nil _
  refine ⟨?_, hshares, hdocuments ▸ hparent.named, hdocuments ▸ hparent.apart⟩
  have haddress := h.address
  rw [habove] at haddress
  rw [hnew, ← Option.some.inj haddress]
  rfl

theorem chain_update_self {change : Scope → Scope} (h : tree.update id change = .ok tree')
    (hparent : ∀ s, (change s).parent = s.parent) {s : Scope} (hs : tree.get? id = some s) :
    ∃ above, tree.chain id = s :: above ∧ tree'.chain id = change s :: above := by
  have hs' : tree'.get? id = some (change s) := by
    rw [get?_update h, if_pos rfl, hs]
    rfl
  refine ⟨_, chain_of_some hs, (chain_of_some hs').trans ?_⟩
  rw [hparent]
  cases s.parent with
  | none => rfl
  | some parent =>
      dsimp only
      split
      · next hlt => rw [chain_update_of_lt h hlt]
      · rfl

theorem Shows.registerSchema (h : tree.Shows id address ((store, n) :: shares))
    (hregister : tree.registerSchema id root = .ok tree') :
    tree'.Shows id address
      (({ documents := store.documents ++ [Document.shared root] }, n + 1) :: shares) := by
  obtain ⟨s, document, x, hs, hdocument, hx, hunseen, -⟩ := registerSchema_checked hregister
  obtain ⟨s', store', document', -, hs', hdocument', -, hstore, hu⟩ :=
    registerSchema_document hregister
  obtain rfl := Option.some.inj (hs.symm.trans hs')
  obtain rfl := Except.ok.inj (hdocument.symm.trans hdocument')
  obtain ⟨above, hchain, hchain'⟩ := chain_update_self hu (fun _ => rfl) hs
  have hown := h.shares
  rw [hchain, List.map_cons, List.cons.injEq] at hown
  obtain ⟨hself, habove⟩ := hown
  obtain ⟨rfl, rfl⟩ := Prod.mk.inj hself
  have hdocuments : tree'.documents id = tree.documents id ++ [document] := by
    unfold ScopeTree.documents Schema.Set.documentsOf
    rw [hchain, hchain']
    simp [hstore]
  refine ⟨?_, ?_, fun d hd => ?_, fun hnormal => ?_⟩
  · rw [get?_update hu, if_pos rfl, Option.map_map]
    exact h.address
  · rw [hchain', List.map_cons, habove, ← Document.eq_shared_of_ofShared? hdocument, ← hstore]
    rfl
  · rw [hdocuments] at hd
    rcases List.mem_append.mp hd with hd | hd
    · exact h.named d hd
    · exact ⟨x, List.mem_singleton.mp hd ▸ hx⟩
  · rw [hdocuments] at hnormal ⊢
    -- the identifier was free on the whole chain, or the registration would have been refused
    have hfresh : ∀ d ∈ tree.documents id, d.id ≠ some x := by
      have hx' : Identifier.canonical x = x :=
        hnormal document (List.mem_append_right _ (List.mem_singleton_self _)) x hx
      have hnone : Table.find? x (tree.schemaSet id).documents = none := by
        simpa [Schema.Set.contains, Schema.Set.document?, hx'] using hunseen
      have hfind := find?_documents_schemaSet tree id x
      rw [hnone, Option.map_none, eq_comm, List.find?_eq_none] at hfind
      exact fun d hd hid => hfind d (List.mem_reverse.mpr hd) (decide_eq_true hid)
    rw [List.map_append, List.map_singleton, ← List.concat_eq_append, List.nodup_concat]
    refine ⟨fun hmem => ?_, h.apart fun d hd => hnormal d (List.mem_append_left _ hd)⟩
    obtain ⟨d, hd, hid⟩ := List.mem_map.mp hmem
    exact hfresh d hd (hid.trans hx)

theorem get?_registerSchema (h : tree.registerSchema id root = .ok tree') {j : ScopeId}
    (hj : j ≠ id) : tree'.get? j = tree.get? j := by
  obtain ⟨store, hu⟩ := registerSchema_eq_ok h
  rw [get?_update hu, if_neg hj]

/-- Whether a route of an engine is a declared one: it was made from the declaration, at a scope
that shows what the entries around it declare. -/
structure Carries (tree : ScopeTree) (d : Declared) (r : Route) : Prop where
  method : r.method = Text.upper (Text.trim d.route.method)
  url : r.url = Address.join (ScopeEntry.prefixOf d.within) d.route.url
  declaration : r.declaration = d.route.declaration
  prepared : r.prepared = none
  shows : tree.Shows r.scope (ScopeEntry.prefixOf d.within) (ScopeEntry.shares d.within)

theorem Carries.congr {d : Declared} {r : Route} (h : tree.Carries d r)
    (hsame : ∀ j : ScopeId, j.index < tree.scopes.length → tree'.get? j = tree.get? j) :
    tree'.Carries d r :=
  { h with shows := h.shows.congr fun j hj => hsame j (Nat.lt_of_le_of_lt hj h.shows.index_lt) }

end ScopeTree

/-! ## §3  Applying an entry -/

namespace ScopeEntry

variable {e e' : Engine} {scope parent : ScopeId}

def routeAt (scope : ScopeId) (address : String) (r : RouteEntry) : Route where
  scope := scope
  method := Text.upper (Text.trim r.method)
  url := Address.join address r.url
  declaration := r.declaration

/-- A new scope changes the scopes alone. -/
theorem childScope_eq_ok {path : String} {id : ScopeId}
    (h : e.childScope parent path = .ok (e', id)) :
    e.scopes.child parent path = .ok (e'.scopes, id) ∧ e'.routes = e.routes ∧
      e'.ready = e.ready := by
  obtain ⟨⟨scopes, id'⟩, hscopes, hmade⟩ := Result.bind_eq_ok.mp h
  rw [Result.pure_eq_ok, Prod.mk.injEq] at hmade
  obtain ⟨rfl, rfl⟩ := hmade
  exact ⟨hscopes, rfl, rfl⟩

/-- A schema that is registered on an engine that is not ready changes the scopes alone. -/
theorem registerSchema_eq_ok {root : Json} (hready : e.ready = false)
    (h : e.registerSchema scope root = .ok e') :
    e.scopes.registerSchema scope root = .ok e'.scopes ∧ e'.routes = e.routes ∧
      e'.ready = false := by
  obtain ⟨scopes, hscopes, hmade⟩ := Result.bind_eq_ok.mp h
  rw [Result.pure_eq_ok, hready] at hmade
  subst hmade
  exact ⟨hscopes, rfl, rfl⟩

theorem addRoute_eq_ok {r : RouteEntry} {id : RouteId} {address : String}
    (haddress : (e.scopes.get? scope).map Scope.address = some address)
    (h : e.addRoute scope r.declaration = .ok (e', id)) :
    e'.scopes = e.scopes ∧ e'.routes = e.routes ++ [routeAt scope address r] ∧
      e'.ready = false := by
  obtain ⟨above, habove, hmade⟩ := Result.bind_eq_ok.mp h
  rw [ScopeTree.get_eq_ok.mp habove] at haddress
  obtain rfl := Option.some.inj haddress
  by_cases hready : e.ready = true
  · rw [if_pos hready] at hmade
    exact absurd hmade Result.throw_ne_ok
  · rw [if_neg hready, Result.pure_eq_ok, Prod.mk.injEq] at hmade
    obtain ⟨rfl, -⟩ := hmade
    exact ⟨rfl, rfl, Bool.eq_false_iff.mpr hready⟩

/-- **Schemas** are added to the share of the scope. -/
theorem applySchemas_shows {address : String} {shares : List (Store × Nat)} :
    ∀ (schemas : List Json) {store : Store} {n : Nat} {e : Engine}, e.ready = false →
      e.scopes.Shows scope address ((store, n) :: shares) →
      applySchemas scope schemas e = .ok e' →
      e'.scopes.Shows scope address
          (({ documents := store.documents ++ schemas.map Document.shared }, n + schemas.length) ::
            shares) ∧
        e'.scopes.scopes.length = e.scopes.scopes.length ∧
        (∀ j, j ≠ scope → e'.scopes.get? j = e.scopes.get? j) ∧
        e'.routes = e.routes ∧ e'.ready = false
  | [], store, n, e, hready, hshows, h => by
      obtain rfl := Except.ok.inj h
      refine ⟨?_, rfl, fun _ _ => rfl, rfl, hready⟩
      rw [List.map_nil, List.append_nil]
      exact hshows
  | schema :: rest, store, n, e, hready, hshows, h => by
      obtain ⟨e₁, hfirst, h⟩ := Result.bind_eq_ok.mp h
      obtain ⟨hscopes, hroutes, hready⟩ := registerSchema_eq_ok hready hfirst
      obtain ⟨hrest, hlength, holder, hroutes', hready'⟩ :=
        applySchemas_shows rest hready (hshows.registerSchema hscopes) h
      refine ⟨?_, hlength.trans (ScopeTree.length_registerSchema hscopes),
        fun j hj => (holder j hj).trans (ScopeTree.get?_registerSchema hscopes hj),
        hroutes'.trans hroutes, hready'⟩
      rw [List.append_assoc, Nat.add_assoc, Nat.add_comm 1] at hrest
      exact hrest

/-- **Routes** are added behind those that are there. -/
theorem applyRoutes_eq {address : String} : ∀ (routes : List RouteEntry) {e : Engine},
    e.ready = false → (e.scopes.get? scope).map Scope.address = some address →
    applyRoutes scope routes e = .ok e' →
    e'.scopes = e.scopes ∧ e'.routes = e.routes ++ routes.map (routeAt scope address) ∧
      e'.ready = false
  | [], e, hready, _, h => by
      obtain rfl := Except.ok.inj h
      exact ⟨rfl, (List.append_nil _).symm, hready⟩
  | r :: rest, e, hready, haddress, h => by
      obtain ⟨⟨e₁, id⟩, hfirst, h⟩ := Result.bind_eq_ok.mp h
      obtain ⟨hscopes, hroutes, hready⟩ := addRoute_eq_ok haddress hfirst
      obtain ⟨hscopes', hroutes', hready'⟩ := applyRoutes_eq rest hready (hscopes ▸ haddress) h
      refine ⟨hscopes'.trans hscopes, ?_, hready'⟩
      rw [hroutes', hroutes, List.append_assoc]
      rfl

/-- What applying entries does to an engine: routes for their declarations are added, and of the
scopes that are there at most the given one is touched. -/
structure Adds (e : Engine) (touched : Option ScopeId) (declared : List Declared)
    (e' : Engine) : Prop where
  ready : e'.ready = false
  length : e.scopes.scopes.length ≤ e'.scopes.scopes.length
  older : ∀ j : ScopeId, j.index < e.scopes.scopes.length → touched ≠ some j →
    e'.scopes.get? j = e.scopes.get? j
  routes : ∃ added, e'.routes = e.routes ++ added ∧
    List.Forall₂ e'.scopes.Carries declared added

theorem Adds.carries {declared more : List Declared} {routes : List Route}
    (h : Adds e none more e') (hroutes : List.Forall₂ e.scopes.Carries declared routes) :
    List.Forall₂ e'.scopes.Carries declared routes :=
  hroutes.imp fun _ _ hcarries => hcarries.congr fun j hj => h.older j hj nofun

theorem Adds.get?_older {e₁ : Engine} {id : ScopeId} {path : String} {declared : List Declared}
    (h : Adds e₁ (some id) declared e') (hchild : e.scopes.child parent path = .ok (e₁.scopes, id))
    {j : ScopeId} (hj : j.index < e.scopes.scopes.length) :
    e'.scopes.get? j = e.scopes.get? j := by
  obtain ⟨-, -, -, hid, hlength, holder⟩ := ScopeTree.get?_child hchild
  rw [h.older j (by omega) ?_, holder j hj]
  intro heq
  rw [← Option.some.inj heq] at hj
  omega

mutual
/-- **An entry that is applied adds its routes**, if its scope shows what is around the entry. -/
theorem adds_apply : ∀ (entry : ScopeEntry) {outer : List ScopeEntry} {scope : ScopeId}
    {e e' : Engine}, e.ready = false →
    e.scopes.Shows scope (prefixOf (outer ++ [entry])) (({}, 0) :: shares outer) →
    entry.apply scope e = .ok e' → Adds e (some scope) (declared outer entry) e'
  | entry path schemas routes children, outer, scope, e, e', hready, hshows, h => by
      obtain ⟨e₁, hschemas, h⟩ := Result.bind_eq_ok.mp h
      obtain ⟨e₂, hroutes, h⟩ := Result.bind_eq_ok.mp h
      obtain ⟨hshows, hlength, holder, hroutes₁, hready⟩ :=
        applySchemas_shows schemas hready hshows hschemas
      obtain ⟨hscopes, hroutes₂, hready⟩ := applyRoutes_eq routes hready hshows.address hroutes
      rw [List.nil_append, Nat.zero_add, ← hscopes] at hshows
      rw [← hscopes] at hlength holder
      have hbefore := (shares_concat outer (entry path schemas routes children)).symm ▸ hshows
      have hadds := adds_applyChildren children
        (List.append_ne_nil_of_right_ne_nil outer (List.cons_ne_nil _ [])) hready hbefore h
      have hown : List.Forall₂ e₂.scopes.Carries
          (routes.map (⟨·, outer ++ [entry path schemas routes children]⟩))
          (routes.map (routeAt scope (prefixOf (outer ++ [entry path schemas routes children])))) := by
        rw [List.forall₂_map_left_iff, List.forall₂_map_right_iff, List.forall₂_same]
        exact fun r _ => ⟨rfl, rfl, rfl, rfl, hbefore⟩
      obtain ⟨added, hadded, hcarries⟩ := hadds.routes
      refine ⟨hadds.ready, hlength ▸ hadds.length, fun j hj htouched => ?_,
        routes.map (routeAt scope (prefixOf (outer ++ [entry path schemas routes children]))) ++ added,
        ?_, ?_⟩
      · rw [hadds.older j (hlength.symm ▸ hj) nofun]
        exact holder j fun heq => htouched (congrArg some heq.symm)
      · rw [hadded, hroutes₂, hroutes₁, List.append_assoc]
      · rw [declared]
        exact List.rel_append (hadds.carries hown) hcarries

theorem adds_applyChildren : ∀ (children : List ScopeEntry) {outer : List ScopeEntry}
    {parent : ScopeId} {e e' : Engine}, outer ≠ [] → e.ready = false →
    e.scopes.Shows parent (prefixOf outer) (shares outer) →
    applyChildren parent children e = .ok e' → Adds e none (declaredBelow outer children) e'
  | [], outer, parent, e, e', _, hready, _, h => by
      obtain rfl := Except.ok.inj h
      exact ⟨hready, Nat.le_refl _, fun _ _ _ => rfl, [], (List.append_nil _).symm, .nil⟩
  | entry path schemas routes children :: rest, outer, parent, e, e', houter, hready, hshows, h => by
      obtain ⟨⟨e₁, id⟩, hchild, h⟩ := Result.bind_eq_ok.mp h
      obtain ⟨e₂, hentry, h⟩ := Result.bind_eq_ok.mp h
      obtain ⟨hscopes, hroutes, hready₁⟩ := childScope_eq_ok hchild
      obtain ⟨-, -, -, -, hlength, -⟩ := ScopeTree.get?_child hscopes
      have hopened := hshows.child hscopes
      have hjoined := prefixOf_concat houter (entry path schemas routes children)
      have hadds := adds_apply (entry path schemas routes children) (hready₁.trans hready)
        (hjoined ▸ hopened) hentry
      have hlater := adds_applyChildren rest houter hadds.ready
        (hshows.congr fun j hj =>
          hadds.get?_older hscopes (Nat.lt_of_le_of_lt hj hshows.index_lt)) h
      have hle : e.scopes.scopes.length ≤ e₂.scopes.scopes.length :=
        Nat.le_trans (by omega) hadds.length
      obtain ⟨added, hadded, hcarries⟩ := hadds.routes
      obtain ⟨more, hmore, hcarriesMore⟩ := hlater.routes
      refine ⟨hlater.ready, Nat.le_trans hle hlater.length, fun j hj _ => ?_, added ++ more, ?_, ?_⟩
      · rw [hlater.older j (Nat.lt_of_lt_of_le hj hle) nofun, hadds.get?_older hscopes hj]
      · rw [hmore, hadded, hroutes, List.append_assoc]
      · rw [declaredBelow]
        exact List.rel_append (hlater.carries hcarries) hcarriesMore
end

mutual
/-- The entries around a route start with those around the entry that declares it. -/
theorem prefix_within {d : Declared} : ∀ (entry : ScopeEntry) {outer : List ScopeEntry},
    d ∈ declared outer entry → outer ++ [entry] <+: d.within
  | entry path schemas routes children, outer, h => by
      rw [declared] at h
      rcases List.mem_append.mp h with h | h
      · obtain ⟨r, -, rfl⟩ := List.mem_map.mp h
        exact List.prefix_refl _
      · exact prefix_within_below children h

theorem prefix_within_below {d : Declared} : ∀ (children : List ScopeEntry)
    {outer : List ScopeEntry}, d ∈ declaredBelow outer children → outer <+: d.within
  | [], _, h => by
      rw [declaredBelow] at h
      cases h
  | child :: rest, outer, h => by
      rw [declaredBelow] at h
      rcases List.mem_append.mp h with h | h
      · exact (List.prefix_append outer [child]).trans (prefix_within child h)
      · exact prefix_within_below rest h
end

end ScopeEntry

/-! ## §4  Applying a manifest -/

namespace Manifest

open ScopeEntry (Declared)

/-- Whether a route of an engine is a declared one, and sees what the entries around it declare. -/
structure Realizes (e : Engine) (top : ScopeEntry) (d : Declared) (r : Route) : Prop where
  method : r.method = Text.upper (Text.trim d.route.method)
  declaration : r.declaration = d.route.declaration
  prepared : r.prepared = none
  outermost : d.within.head? = some top
  /-- All paths around the route count but the outermost. -/
  url : r.url = Address.join (Address.under (d.within.tail.map ScopeEntry.path)) d.route.url
  /-- With the outermost path it would be another address, unless that is nothing but slashes. -/
  url_iff : r.url = Address.join (Address.under (d.within.map ScopeEntry.path)) d.route.url ↔
    ∀ c ∈ (Text.trim top.path).toList, c = '/'
  schemas : e.scopes.schemaSet r.scope =
    Schema.Set.ofStores (d.within.map fun entry => { documents := entry.documents })
      (d.within.map fun entry => entry.schemas.length).sum
  /-- Of documents with one identifier, that of the innermost entry is visible. -/
  innermost : ∀ x, (Table.find? x (e.scopes.schemaSet r.scope).documents).map
      Schema.Source.document =
    (d.within.flatMap ScopeEntry.documents).reverse.find? fun doc => decide (doc.id = some x)
  /-- If the identifiers are normal, all that is declared is visible, and nothing else. -/
  visible : (∀ doc ∈ d.within.flatMap ScopeEntry.documents, doc.IsNormal) → ∀ doc,
    (∃ x, (Table.find? x (e.scopes.schemaSet r.scope).documents).map
      Schema.Source.document = some doc) ↔ doc ∈ d.within.flatMap ScopeEntry.documents

theorem realizes_of_carries {e : Engine} {top : ScopeEntry} {d : Declared} {r : Route}
    (htop : d.within.head? = some top) (h : e.scopes.Carries d r) : Realizes e top d r := by
  have hshares : (ScopeEntry.shares d.within).reverse = d.within.map fun entry =>
      (({ documents := entry.documents } : Store), entry.schemas.length) :=
    List.reverse_reverse _
  have hdocuments : e.scopes.documents r.scope = d.within.flatMap ScopeEntry.documents := by
    rw [h.shows.documents, hshares, List.flatMap_map]
  have hinnermost := ScopeTree.find?_documents_schemaSet e.scopes r.scope
  rw [hdocuments] at hinnermost
  refine ⟨h.method, h.declaration, h.prepared, htop, h.url, ?_, ?_, hinnermost, fun hnormal => ?_⟩
  · obtain ⟨below, hwithin⟩ := List.head?_eq_some_iff.mp htop
    rw [h.url, ScopeEntry.prefixOf, hwithin, List.tail_cons, List.map_cons, eq_comm]
    exact Address.join_under_cons_iff top.path _ d.route.url
  · have hstores : (e.scopes.chain r.scope).reverse.map Scope.schemas =
        ((e.scopes.chain r.scope).map ScopeTree.shared).reverse.map Prod.fst := by
      rw [← List.map_reverse, List.map_map]
      rfl
    have hcounts : (e.scopes.chain r.scope).map Scope.generation =
        ((e.scopes.chain r.scope).map ScopeTree.shared).map Prod.snd := by
      rw [List.map_map]
      rfl
    rw [h.shows.shares, hshares, List.map_map] at hstores
    rw [h.shows.shares] at hcounts
    unfold ScopeTree.schemaSet ScopeTree.generation
    rw [hstores, hcounts, ← List.sum_reverse, ← List.map_reverse, hshares, List.map_map]
    rfl
  · have hnodup := h.shows.apart
    rw [hdocuments] at hnodup
    intro doc
    simp only [hinnermost, Schema.Set.find?_eq_some_iff_of_nodup (hnodup hnormal)]
    constructor
    · rintro ⟨x, hdoc, -⟩
      exact hdoc
    · intro hdoc
      obtain ⟨x, hx⟩ := h.shows.named doc (hdocuments ▸ hdoc)
      exact ⟨x, hdoc, hx⟩

/-- **A manifest that is applied leaves the routes that it declares**, in their order, and each
sees the schemas that are declared around it. -/
theorem realizes_apply {m : Manifest} {config : EngineConfig} {e : Engine}
    (h : m.apply (.ofConfig config) = .ok e) :
    e.routes.length = m.routeCount ∧
      List.Forall₂ (Realizes e m.root) (ScopeEntry.declared [] m.root) e.routes := by
  have hshows : (Engine.ofConfig config).scopes.Shows .root
      (ScopeEntry.prefixOf ([] ++ [m.root])) (({}, 0) :: ScopeEntry.shares []) := by
    have hchain : (Engine.ofConfig config).scopes.chain .root = [{}] := ScopeTree.chain_of_some rfl
    have hdocuments : (Engine.ofConfig config).scopes.documents .root = [] := by
      unfold ScopeTree.documents
      rw [hchain]
      rfl
    refine ⟨rfl, by rw [hchain]; rfl, ?_, ?_⟩
    · rw [hdocuments]
      nofun
    · rw [hdocuments]
      exact fun _ => List.nodup_nil
  obtain ⟨added, hadded, hcarries⟩ := (ScopeEntry.adds_apply m.root rfl hshows h).routes
  obtain rfl : e.routes = added := hadded
  constructor
  · rw [← hcarries.length_eq]
    exact ScopeEntry.length_declared [] m.root
  · refine List.forall₂_iff_zip.mpr ⟨hcarries.length_eq, fun hmem => ?_⟩
    obtain ⟨below, hwithin⟩ := ScopeEntry.prefix_within m.root (List.of_mem_zip hmem).1
    refine realizes_of_carries ?_ ((List.forall₂_iff_zip.mp hcarries).2 hmem)
    rw [← hwithin]
    rfl

/-- A manifest with scopes beside and inside each other, and a shared schema in each. -/
def nested : Manifest :=
  { root := .entry "" [Engine.namedType "a" "string"] [{ method := "get ", url := "" }]
      [.entry "/admin/" [Engine.namedType "b" "string"] [{ method := "PUT", url := ":id" }]
        [.entry " inner " [Engine.namedType "c" "string"] [{ method := "GET", url := "/" }] []],
      .entry "/other" [Engine.namedType "b" "string"] [{ method := "GET", url := "/x" }] []] }

theorem realizes_apply_nested : ∃ e, nested.apply (.ofConfig {}) = .ok e ∧
    e.routes.map Route.label =
      ["GET /", "PUT /admin/:id", "GET /admin/inner", "GET /other/x"] ∧
    e.routes.length = nested.routeCount ∧
    List.Forall₂ (Realizes e nested.root) (ScopeEntry.declared [] nested.root) e.routes := by
  have hrun : ((nested.apply (.ofConfig {})).toOption.map fun e => e.routes.map Route.label) =
      some ["GET /", "PUT /admin/:id", "GET /admin/inner", "GET /other/x"] := by
    decide +kernel
  obtain ⟨e, he, hlabels⟩ := Option.map_eq_some_iff.mp hrun
  have he := Result.toOption_eq_some.mp he
  exact ⟨e, he, hlabels, realizes_apply he⟩

def rooted : Manifest := { root := .entry "/api" [] [{ method := "GET", url := "/x" }] [] }

/-- **Not every path around a route counts**: that of the outermost entry is lost. -/
theorem not_realizes_outermost :
    ¬ ∀ (m : Manifest) (config : EngineConfig) (e : Engine), m.apply (.ofConfig config) = .ok e →
      List.Forall₂ (fun (d : Declared) (r : Route) =>
        r.url = Address.join (Address.under (d.within.map ScopeEntry.path)) d.route.url)
        (ScopeEntry.declared [] m.root) e.routes := by
  intro hall
  have hurls := hall rooted {} _ rfl
  have hroute := (List.forall₂_cons.mp hurls).1
  exact absurd hroute (by decide +kernel)

/-- A manifest in which a scope repeats an identifier that is not normal. -/
def repeated : Manifest :=
  { root := .entry "" [Engine.namedType "a #" "string"] []
      [.entry "/c" [Engine.namedType "a #" "integer"] [{ method := "GET", url := "/x" }] []] }

def declaredType (d : Document) : Option String := (d.root.get? "type").bind Json.asString?

/-- **Not all that is declared around a route is visible to it**: an identifier that is not normal
can be declared again further in. -/
theorem not_realizes_repeated :
    ¬ ∀ (m : Manifest) (config : EngineConfig) (e : Engine), m.apply (.ofConfig config) = .ok e →
      List.Forall₂ (fun (d : Declared) (r : Route) =>
        ∀ doc ∈ d.within.flatMap ScopeEntry.documents,
          ∃ x, (Table.find? x (e.scopes.schemaSet r.scope).documents).map
            Schema.Source.document = some doc)
        (ScopeEntry.declared [] m.root) e.routes := by
  intro hall
  have hrun : ((repeated.apply (.ofConfig {})).toOption.map fun e => e.routes.map fun r =>
      (e.scopes.schemaSet r.scope).documents.map fun p => declaredType p.2.document) =
        some [[some "integer"]] := by
    decide +kernel
  obtain ⟨e, he, htypes⟩ := Option.map_eq_some_iff.mp hrun
  have hvisible := hall repeated {} e (Result.toOption_eq_some.mp he)
  obtain ⟨r, rest, hroutes⟩ := List.exists_cons_of_ne_nil (l := e.routes) (by
    rintro hnil
    rw [hnil] at htypes
    cases htypes)
  rw [hroutes, List.map_cons, List.cons.injEq] at htypes
  rw [hroutes] at hvisible
  obtain ⟨x, hx⟩ := (List.forall₂_cons.mp hvisible).1
    (Document.shared (Engine.namedType "a #" "string"))
    (List.mem_flatMap.mpr ⟨_, List.mem_cons_self, List.mem_cons_self⟩)
  obtain ⟨s, hs, hdocument⟩ := Option.map_eq_some_iff.mp hx
  have htype : declaredType s.document ∈ [some "integer"] :=
    htypes.1 ▸ List.mem_map.mpr ⟨(x, s), Table.find?_mem hs, rfl⟩
  rw [hdocument] at htype
  exact absurd htype (by decide +kernel)

end Manifest

end ReplySchema
