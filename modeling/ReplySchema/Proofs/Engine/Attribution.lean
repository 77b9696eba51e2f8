import ReplySchema.Proofs.Engine.Binding
import ReplySchema.Proofs.Engine.Frame
import ReplySchema.Proofs.Engine.Snapshots
import ReplySchema.Proofs.Engine.Stocking
import ReplySchema.Proofs.Response.Separation

/-! # Whose artifact a lookup is given

Two slots of one key share an artifact.  Only one of them is ever compiled, the first: when a route
is prepared the first was asked for before the second, and so the second is served what the first
was compiled to.  `Attributed` says of all artifacts of a route that they are of first slots.

A lookup finds a first slot, unless a key of a content map is brought to the text of the wildcard.
So a reply is never given the serializer of another schema, with this exception.

Main statements: `keys_separate_schemas`, and `not_keys_separate_schemas` for the exception.
-/

set_option autoImplicit false

namespace ReplySchema

open Serving
open Response (Slot Declaration)

/-- Whether what a route declares has no disguised wildcard. -/
def Route.IsBare (r : Route) : Prop :=
  ∀ d, r.declared = .ok d → ∀ entry ∈ d.entries, entry.IsBare

theorem Route.IsBare.of_site {r r' : Route} (h : r.IsBare) (hsite : r'.site = r.site) :
    r'.IsBare := by
  have hdeclared : r'.declared = r.declared :=
    Route.eq_of_site Route.declared (fun _ => rfl) hsite
  unfold Route.IsBare
  rw [hdeclared]
  exact h

theorem Response.Declaration.IsFirst.unique {d : Declaration} {slot slot' : Slot}
    (h : d.IsFirst slot) (h' : d.IsFirst slot')
    (hlabel : slot.selector.label = slot'.selector.label)
    (hmedia : slot.mediaType = slot'.mediaType) : slot = slot' := by
  unfold IsFirst at h h'
  rw [← hlabel, ← hmedia, h] at h'
  exact Option.some.inj h'

namespace Engine

/-! ## §1  Artifacts of first slots -/

/-- Whether each artifact of a route is what one of some compilers made of the first slot under its
key, under schemas that the route sees or saw. -/
def Attributed (e : Engine) (id : RouteId) (C : Compiler → Prop) (c : Cache Serializer) : Prop :=
  ∀ key version serializer, key.route = id →
    Table.find? key c.entries = some (version, serializer) →
    ∃ r d slot compiler schemas, e.routes[id.index]? = some r ∧ r.declared = .ok d ∧
      d.IsFirst slot ∧ key = artifactKey id slot ∧ C compiler ∧ Seen e.scopes r.scope schemas ∧
      version = .ofSet schemas ∧ r.compiledBy compiler schemas slot = .ok serializer

/-- Whether one engine shows a route as another does, or with younger schemas. -/
def Follows (e e' : Engine) (id : RouteId) : Prop :=
  ∀ r, e.routes[id.index]? = some r → ∃ r', e'.routes[id.index]? = some r' ∧ r'.site = r.site ∧
    (e'.scopes.schemaSet r.scope = e.scopes.schemaSet r.scope ∨
      e.scopes.generation r.scope < e'.scopes.generation r.scope)

variable {e : Engine} {id : RouteId} {C : Compiler → Prop}

theorem attributed_empty {c : Cache Serializer} (h : c.entries = []) : Attributed e id C c := by
  intro key version serializer _ hfind
  rw [h] at hfind
  cases hfind

theorem Attributed.follow {e' : Engine} {c : Cache Serializer} (h : Attributed e id C c)
    (hfollows : Follows e e' id) : Attributed e' id C c := by
  intro key version serializer hkey hfind
  obtain ⟨r, d, slot, compiler, schemas, hr, hd, hfirst, hkey', hC, hseen, hversion, hmade⟩ :=
    h key version serializer hkey hfind
  obtain ⟨r', hr', hsite, hview⟩ := hfollows r hr
  have hscope : r'.scope = r.scope := Route.eq_of_site Route.scope (fun _ => rfl) hsite
  refine ⟨r', d, slot, compiler, schemas, hr', ?_, hfirst, hkey', hC, ?_, hversion, ?_⟩
  · rw [Route.eq_of_site Route.declared (fun _ => rfl) hsite]
    exact hd
  · rw [hscope]
    exact hseen.carry hview
  · rw [Route.compiledBy_of_site hsite]
    exact hmade

/-- Asking for the artifact of a slot keeps the artifacts attributed, if the slot is a first one or
its artifact is there. -/
theorem artifact_attributed {j : RouteId} {r : Route} (hr : e.routes[j.index]? = some r)
    {p : Prepared} (hp : Remembers e r p) (hforce : j = id → C (e.compilerFor r)) {slot : Slot}
    {s : Serving} (h : Attributed e id C s.cache)
    (hslot : j = id → p.responses.IsFirst slot ∨ (s.cache.enabled = true →
      (s.cache.served? (artifactKey j slot) p.version).isSome = true)) :
    Attributed e id C ((e.artifact j r p.schemas p.version slot).run.run s).2.cache := by
  rw [run_artifact]
  cases hserved : s.cache.served? (artifactKey j slot) p.version with
  | some serializer => exact h
  | none =>
      cases hmade : e.compiled r p.schemas slot with
      | error fault => exact h
      | ok serializer =>
          dsimp only
          intro key version other hkey hfind
          rw [Cache.find?_stored] at hfind
          split at hfind
          · rename_i hsame
            obtain ⟨henabled, rfl⟩ := hsame
            obtain ⟨rfl, rfl⟩ := Prod.mk.inj (Option.some.inj hfind)
            obtain rfl : j = id := hkey
            have hfirst : p.responses.IsFirst slot := by
              rcases hslot rfl with hfirst | hkept
              · exact hfirst
              · -- the artifact would have been found
                have hsome := hkept henabled
                rw [hserved] at hsome
                cases hsome
            exact ⟨r, p.responses, slot, e.compilerFor r, p.schemas, hr, hp.responses, hfirst, rfl,
              hforce rfl, hp.seen, hp.version, hmade⟩
          · exact h key version other hkey hfind

/-! ## §2  Preparations and lookups -/

/-- Preparing slots compiles the first of each key only, whatever the cache held before. -/
theorem prepareSlots_attributed {j : RouteId} {r : Route} (hr : e.routes[j.index]? = some r)
    {p : Prepared} (hp : Remembers e r p) (hforce : j = id → C (e.compilerFor r)) :
    ∀ {rest done : List Slot} {s : Serving}, p.responses.slots = done ++ rest →
      (s.cache.enabled = true → ∀ t ∈ done, HasSlot s.cache j p t) → Attributed e id C s.cache →
      Attributed e id C ((rest.forM (e.prepareSlot j r .kept p)).run.run s).2.cache
  | [], _, _, _, _, h => h
  | slot :: rest, done, s, hsplit, hdone, h => by
      rcases hrun : (e.prepareSlot j r .kept p slot).run.run s with ⟨result, s'⟩
      obtain ⟨hgrows, hnew⟩ := prepareSlot_grows hrun
      have hslot : Attributed e id C s'.cache := by
        cases hcheck : p.schemas.check (.ofInline slot.schema) with
        | error fault =>
            rw [run_prepareSlot_of_fault hcheck] at hrun
            obtain ⟨rfl, rfl⟩ := Prod.mk.inj hrun
            exact h
        | ok checked =>
            rw [run_prepareSlot hcheck] at hrun
            obtain ⟨rfl, rfl⟩ := Prod.mk.inj hrun
            refine artifact_attributed hr hp hforce h fun _ => ?_
            -- a slot that is not the first has its key from one of those that are done
            refine (isFirst_or_exists hsplit j).imp_right ?_
            rintro ⟨t, ht, hkey⟩ henabled
            rw [← hkey]
            exact (hdone henabled t ht).2
      rw [run_forM_cons, hrun]
      cases result with
      | error fault => exact hslot
      | ok done' =>
          have hsplit' : p.responses.slots = (done ++ [slot]) ++ rest := by
            rw [hsplit, List.append_assoc]
            rfl
          have hdone' : s'.cache.enabled = true →
              ∀ t ∈ done ++ [slot], HasSlot s'.cache j p t := by
            intro henabled t ht
            rw [hgrows.enabled] at henabled
            rcases List.mem_append.mp ht with ht | ht
            · obtain ⟨hcheck, hkept⟩ := hdone henabled t ht
              exact ⟨hcheck, hgrows.keeps _ hkept⟩
            · rw [List.mem_singleton.mp ht]
              exact hnew henabled rfl
          exact prepareSlots_attributed hr hp hforce hsplit' hdone' hslot

theorem prepare_attributed {j : RouteId} {r : Route} (hr : e.routes[j.index]? = some r)
    (hforce : j = id → C (e.compilerFor r)) :
    Meets (Attributed e id C) (e.prepare j r .kept).run fun result c =>
      Attributed e id C c ∧ ∀ p, result = .ok p → Reflects e r p := by
  unfold prepare
  cases houtfit : e.outfit r with
  | error fault => exact meets_pure fun _ hc => ⟨hc, nofun⟩
  | ok p =>
      have hreflects := reflects_outfit houtfit
      have hslots : Meets (Attributed e id C)
          (p.responses.slots.forM (e.prepareSlot j r .kept p)).run fun _ c =>
            Attributed e id C c :=
        fun s hs => prepareSlots_attributed hr hreflects.remembers hforce (List.nil_append _).symm
          (fun _ t ht => by cases ht) hs
      refine meets_bindExcept hslots (fun _ => meets_pure fun _ hc => ⟨hc, ?_⟩)
        fun _ _ hc => ⟨hc, nofun⟩
      rintro q hq
      obtain rfl := Except.ok.inj hq
      exact hreflects

/-- Whether a lookup comes to no serializer if no slot applies, and else to what one of some
compilers makes of *this* slot under one of some schema sets. -/
def FindsOwn (e : Engine) (r : Route) (d : Declaration) (C : Compiler → Prop)
    (S : Schema.Set → Prop) (status : Nat) (contentType : Option String)
    (found : Except BuildError (Option Serializer)) : Prop :=
  match d.resolve? status contentType e.config.contentFallthrough with
  | none => found = .ok none
  | some slot => ∃ compiler schemas, C compiler ∧ S schemas ∧
      found = (r.compiledBy compiler schemas slot).map some

/-- The artifact of a first slot is what one of the compilers made of it, kept or not. -/
theorem artifact_own {j : RouteId} {r : Route} (hr : e.routes[j.index]? = some r) {p : Prepared}
    (hp : Remembers e r p) (hforce : j = id → C (e.compilerFor r)) {slot : Slot}
    (hfirst : j = id → p.responses.IsFirst slot) :
    Meets (Attributed e id C) (e.artifact j r p.schemas p.version slot).run fun result c =>
      Attributed e id C c ∧ (j = id → ∃ compiler schemas, C compiler ∧
        (Seen e.scopes r.scope schemas ∧ schemas.generation = p.schemas.generation) ∧
        result = r.compiledBy compiler schemas slot) := by
  intro s hs
  refine ⟨artifact_attributed hr hp hforce hs fun hj => Or.inl (hfirst hj), fun hj => ?_⟩
  subst hj
  rw [run_artifact]
  cases hserved : s.cache.served? (artifactKey j slot) p.version with
  | none => exact ⟨e.compilerFor r, p.schemas, hforce rfl, ⟨hp.seen, rfl⟩, rfl⟩
  | some serializer =>
      obtain ⟨r', d, slot', compiler, schemas, hr', hd, hfirst', hkey, hC, hseen, hversion,
        hmade⟩ := hs _ _ _ rfl (Cache.get?_eq_some.mp (Cache.served?_eq_some.mp hserved).2)
      obtain rfl : r' = r := Option.some.inj (hr'.symm.trans hr)
      obtain rfl : d = p.responses := Except.ok.inj (hd.symm.trans hp.responses)
      simp only [artifactKey, ArtifactKey.mk.injEq, true_and] at hkey
      -- what is kept was made of the first slot under this key, and that is this one
      obtain rfl : slot = slot' := (hfirst rfl).unique hfirst' hkey.1 hkey.2
      have hgeneration : p.schemas.generation = schemas.generation := by
        rw [hp.version] at hversion
        exact congrArg Version.generation hversion
      exact ⟨compiler, schemas, hC, ⟨hseen, hgeneration.symm⟩, hmade.symm⟩

/-- **A lookup is given what was made of the slot that it found**, on a route without disguised
wildcards. -/
theorem serializerFor_own {j : RouteId} {r : Route} (hr : e.routes[j.index]? = some r)
    {p : Prepared} (hp : Remembers e r p) (hschemas : p.schemas = e.snapshot r)
    (hforce : j = id → C (e.compilerFor r)) (hbare : j = id → r.IsBare) (status : Nat)
    (contentType : Option String) :
    Meets (Attributed e id C) (e.serializerFor j r p status contentType).run fun found c =>
      Attributed e id C c ∧
        (j = id → e.FindsOwn r p.responses C (e.Uses r) status contentType found) := by
  unfold serializerFor FindsOwn
  cases hslot : p.responses.resolve? status contentType e.config.contentFallthrough with
  | none => exact meets_pure fun _ hc => ⟨hc, fun _ => rfl⟩
  | some slot =>
      have hfirst : j = id → p.responses.IsFirst slot := fun hj =>
        Declaration.resolve?_isFirst (hbare hj _ hp.responses) hslot
      have hown : ∀ {made : Except BuildError Serializer}, (j = id → ∃ compiler schemas,
          C compiler ∧ (Seen e.scopes r.scope schemas ∧
            schemas.generation = p.schemas.generation) ∧
          made = r.compiledBy compiler schemas slot) →
          j = id → ∃ compiler schemas, C compiler ∧ e.Uses r schemas ∧
            made.map some = (r.compiledBy compiler schemas slot).map some := by
        intro made hmade hj
        obtain ⟨compiler, schemas, hC, hS, rfl⟩ := hmade hj
        rw [hschemas] at hS
        exact ⟨compiler, schemas, hC, hS, rfl⟩
      refine meets_bindExcept (artifact_own hr hp hforce hfirst) ?_ ?_
      · exact fun serializer => meets_pure fun c hc => ⟨hc.1, hown hc.2⟩
      · exact fun fault c hc => ⟨hc.1, hown hc.2⟩

/-- What every call keeps and finds. -/
theorem framed_attributed (hremembering : Remembering e) (hforce : InForce e id C)
    (hbare : ∀ r, e.routes[id.index]? = some r → r.IsBare) :
    Framed e (Attributed e id C) (fun _ _ _ => True) fun j r p status contentType found =>
      j = id → e.FindsOwn r p.responses C (e.Uses r) status contentType found where
  remembering := hremembering
  prepare j r hr := (prepare_attributed hr fun hj => hforce r (by rw [← hj]; exact hr)).mono
    fun _ _ hc => ⟨hc.1, hc.2, fun _ _ => trivial⟩
  lookup j r p status contentType hr hp hschemas :=
    serializerFor_own hr hp hschemas (fun hj => hforce r (by rw [← hj]; exact hr))
      (fun hj => hbare r (by rw [← hj]; exact hr)) status contentType

/-! ## §3  Runs -/

theorem Registers.view {e' : Engine} (h : Registers e e') {scope : ScopeId}
    (hplaced : scope.index < e.scopes.scopes.length) :
    e'.scopes.schemaSet scope = e.scopes.schemaSet scope ∨
      e.scopes.generation scope < e'.scopes.generation scope := by
  cases h with
  | unseen scopes hlength hview => exact Or.inl (hview scope hplaced).1
  | compiler scopes hlength hset => exact Or.inl (hset scope)
  | schema scopes hlength hview => exact (hview scope).imp_left And.left
  | route r hready hplaced hfresh => exact Or.inl rfl

/-- A registration leaves the cache alone or empties it. -/
theorem Registers.cache {e' : Engine} (h : Registers e e') :
    e'.cache = e.cache ∨ e'.cache.entries = [] := by
  cases h with
  | compiler scopes hlength hset =>
      dsimp only
      split
      · exact Or.inr rfl
      · exact Or.inl rfl
  | _ => exact Or.inl rfl

theorem follows_perform (hplaced : ∀ r ∈ e.routes, r.scope.index < e.scopes.scopes.length)
    (operation : Operation) : Follows e (e.perform operation) id := by
  intro r hr
  obtain ⟨r', hr', hsite⟩ := (continues_perform e operation).routes id.index r hr
  refine ⟨r', hr', hsite, ?_⟩
  cases operation with
  | register registration =>
      exact register_keeps (T := fun e' => e'.scopes.schemaSet r.scope = _ ∨
          _ < e'.scopes.generation r.scope) (Or.inl rfl)
        (fun _ hstep => hstep.view (hplaced r (List.mem_of_getElem? hr))) registration
  | ready =>
      have hscopes : e.makeReady.engine.scopes = e.scopes := by
        obtain ⟨ready, hengine, -⟩ := e.engine_makeReady
        rw [hengine]
      exact Or.inl (congrArg (ScopeTree.schemaSet · r.scope) hscopes)
  | _ => exact Or.inl rfl

theorem Attributed.perform (h : Attributed e id C e.cache) (hlived : Lived e id C)
    (hforce : InForce e id C) (hbare : ∀ r, e.routes[id.index]? = some r → r.IsBare)
    (operation : Operation) :
    Attributed (e.perform operation) id C (e.perform operation).cache := by
  have hframed := framed_attributed hlived.remembering hforce hbare
  have hcall := hframed.perform_call h operation
  refine Attributed.follow ?_ (follows_perform hlived.placed operation)
  cases operation with
  | register registration =>
      refine register_keeps (T := fun e' => Attributed e id C e'.cache) h (fun e' hstep => ?_)
        registration
      rcases hstep.cache with hsame | hempty
      · rwa [hsame]
      · exact attributed_empty hempty
  | clearCache => exact attributed_empty rfl
  | ready =>
      obtain ⟨ready, hengine, -⟩ := e.engine_makeReady
      change Attributed e id C e.makeReady.engine.cache
      rw [hengine]
      exact (hframed.prepareAll h).1
  | _ =>
      obtain ⟨c, hc, heq⟩ := hcall rfl
      rw [heq]
      exact hc

/-- **Every artifact of a route without disguised wildcards is of a first slot**, if the compiler in
force is among the compilers at every moment. -/
theorem attributed_run {e : Engine} (h : Attributed e id C e.cache) (hlived : Lived e id C)
    (operations : List Operation)
    (hall : ∀ front rest, operations = front ++ rest → InForce (e.run front) id C ∧
      ∀ r, (e.run front).routes[id.index]? = some r → r.IsBare) :
    Attributed (e.run operations) id C (e.run operations).cache := by
  have hboth : Attributed (e.run operations) id C (e.run operations).cache ∧
      Lived (e.run operations) id C := by
    refine run_induct (T := fun e' => Attributed e' id C e'.cache ∧ Lived e' id C) ⟨h, hlived⟩
      operations fun front operation rest hsplit hfront => ?_
    obtain ⟨hforce, hbare⟩ := hall front (operation :: rest) hsplit
    exact ⟨hfront.1.perform hfront.2 hforce hbare operation, hfront.2.perform hforce operation⟩
  exact hboth.1

/-! ## §4  What replies are given -/

/-- Whether every serializer that a call on a route applies was made of the slot that applies, by
one of some compilers under schemas of the snapshot's generation. -/
structure ServesOwn (e : Engine) (id : RouteId) (r : Route) (C : Compiler → Prop) : Prop where
  serialize : ∀ status contentType value, e.SerializesBy id r (fun _ _ _ => True)
    (fun _ r p status contentType => e.FindsOwn r p.responses C (e.Uses r) status contentType)
    status contentType value (e.serialize id status contentType value).result
  send : ∀ reply, e.SendsBy id r (fun _ _ _ => True)
    (fun _ r p status contentType => e.FindsOwn r p.responses C (e.Uses r) status contentType)
    reply (e.send id reply).result

theorem servesOwn (h : Attributed e id C e.cache) (hremembering : Remembering e)
    (hforce : InForce e id C) {r : Route} (hr : e.routes[id.index]? = some r) (hbare : r.IsBare) :
    ServesOwn e id r C := by
  have hframed := framed_attributed hremembering hforce fun r' hr' => by
    obtain rfl := Option.some.inj (hr.symm.trans hr')
    exact hbare
  refine ⟨fun status contentType value => ?_, fun reply => ?_⟩
  · have hresult :=
      (hframed.serializeStep id status contentType value { cache := e.cache } h).2 r hr
    refine hresult.imp_right ?_
    rintro ⟨p, found, hp, hfound, heq⟩
    exact ⟨p, found, hp, hfound rfl, heq⟩
  · have hresult := (hframed.sendStep id reply { cache := e.cache } h).2 r hr
    refine hresult.imp_right ?_
    rintro ⟨p, status, first, second, hp, hfirst, hsecond, heq⟩
    exact ⟨p, status, first, second, hp, hfirst rfl, hsecond rfl, heq⟩

/-- **Cache keys separate schemas**, but for keys that are brought to the text of the wildcard.  Two
lookups of a declaration that find slots of one label and one media type find the same schema,
unless there is such a key and only one of the two asks for `*/*` itself.  And on a route without
such a key no call, at any moment of any run, applies a serializer that was not made of the slot
that it found. -/
theorem keys_separate_schemas {declaration : Json} {d : Declaration}
    (hd : Declaration.ofJson declaration = .ok d) :
    (∀ policy status status' contentType contentType' slot slot',
      d.resolve? status contentType policy = some slot →
      d.resolve? status' contentType' policy = some slot' →
      slot.selector.label = slot'.selector.label → slot.mediaType = slot'.mediaType →
      (Response.WildcardsAreBare declaration ∨
        (Response.asked contentType = MediaType.wildcard ↔
          Response.asked contentType' = MediaType.wildcard)) →
      slot.schema = slot'.schema) ∧
    (Response.WildcardsAreBare declaration →
      ∀ (config : EngineConfig) (operations : List Operation) (id : RouteId) (r : Route),
        ((ofConfig config).run operations).routes[id.index]? = some r → r.declared = .ok d →
        ServesOwn ((ofConfig config).run operations) id r
          (WasInForce (ofConfig config) operations id)) := by
  constructor
  · intro policy status status' contentType contentType' slot slot' h h' hlabel hmedia hbare
    rw [Declaration.resolve?_unique (hbare.imp_left (Declaration.isBare_ofJson hd)) h h' hlabel
      hmedia]
  · intro hwildcards config operations id r hr hdeclared
    have hbare : r.IsBare := by
      intro d' hd'
      obtain rfl : d = d' := Except.ok.inj (hdeclared.symm.trans hd')
      exact Declaration.isBare_ofJson hd hwildcards
    have hforce : ∀ front rest, operations = front ++ rest →
        InForce ((ofConfig config).run front) id (WasInForce (ofConfig config) operations id) :=
      fun front rest hsplit r' hr' => ⟨front, rest, r', hsplit, hr', rfl⟩
    -- a route is declared once, so that what holds of it in the end held at every moment
    have hbares : ∀ front rest, operations = front ++ rest →
        ∀ r', ((ofConfig config).run front).routes[id.index]? = some r' → r'.IsBare := by
      intro front rest hsplit r' hr'
      obtain ⟨r'', hr'', hsite⟩ :=
        (continues_run ((ofConfig config).run front) rest).routes id.index r' hr'
      rw [← run_append, ← hsplit] at hr''
      obtain rfl := Option.some.inj (hr''.symm.trans hr)
      exact Route.IsBare.of_site hbare hsite.symm
    have hattributed := attributed_run (attributed_empty rfl) (lived_ofConfig config id _)
      operations fun front rest hsplit => ⟨hforce front rest hsplit, hbares front rest hsplit⟩
    exact servesOwn hattributed (lived_wasInForce config operations id).remembering
      (hforce operations [] (List.append_nil _).symm) hr hbare

/-- Two keys that are brought to `*/*`, of which one is the wildcard. -/
def disguisedWildcard : Json :=
  .object [("200", .object [("content", .object [
    ("*/*;q=1", .object [("schema", .object [("type", .string "integer")])]),
    ("*/*", .object [("schema", .object [("type", .string "string")])])])])]

def twoSpellings : Json := .object [
  ("2xx", .object [("type", .string "string")]),
  ("2XX", .object [("type", .string "integer")])]

/-- A route with two schemas under one key. -/
def spelledTwice : Operation :=
  .register (.addRoute .root { method := "GET", url := "/", response := some twoSpellings })

def calledTwice : List Operation := [
  spelledTwice,
  .serialize ⟨0⟩ 204 none (.nat 5),
  .ready,
  .serialize ⟨0⟩ 204 none (.nat 5)]

/-- What a lookup finds in a declaration: its label, its media type and the text of its schema. -/
def lookedUp (declaration : Json) (status : Nat) (contentType : Option String) :
    Option (String × Option String × String) :=
  ((Declaration.ofJson declaration).toOption.bind fun d =>
    d.resolve? status contentType .stop).map fun s =>
      (s.selector.label, s.mediaType, s.schema.text)

theorem exists_of_lookedUp {declaration : Json} {status : Nat}
    {contentType mediaType : Option String} {label text : String}
    (h : lookedUp declaration status contentType = some (label, mediaType, text))
    {d : Declaration} (hd : Declaration.ofJson declaration = .ok d) :
    ∃ slot, d.resolve? status contentType .stop = some slot ∧ slot.selector.label = label ∧
      slot.mediaType = mediaType ∧ slot.schema.text = text := by
  unfold lookedUp at h
  rw [hd] at h
  obtain ⟨slot, hslot, heq⟩ := Option.map_eq_some_iff.mp h
  obtain ⟨hlabel, hrest⟩ := Prod.mk.inj heq
  obtain ⟨hmedia, htext⟩ := Prod.mk.inj hrest
  exact ⟨slot, hslot, hlabel, hmedia, htext⟩

theorem keys_separate_schemas_calledTwice :
    (∃ d slot slot', Declaration.ofJson disguisedWildcard = .ok d ∧
      d.resolve? 200 (some "text/plain") .stop = some slot ∧
      d.resolve? 200 (some "text/html") .stop = some slot' ∧ slot.schema = slot'.schema) ∧
    ∃ d r, Declaration.ofJson twoSpellings = .ok d ∧ Response.WildcardsAreBare twoSpellings ∧
      ((ofConfig {}).run calledTwice).routes[0]? = some r ∧ r.declared = .ok d ∧
      ServesOwn ((ofConfig {}).run calledTwice) ⟨0⟩ r
        (WasInForce (ofConfig {}) calledTwice ⟨0⟩) := by
  constructor
  · obtain ⟨d, hd⟩ := Option.isSome_iff_exists.mp
      (show (Declaration.ofJson disguisedWildcard).toOption.isSome = true by decide +kernel)
    rw [Result.toOption_eq_some] at hd
    have hplain : lookedUp disguisedWildcard 200 (some "text/plain") =
        some ("200", some "*/*", "\x7b\"type\":\"string\"\x7d") := by decide +kernel
    have hhtml : lookedUp disguisedWildcard 200 (some "text/html") =
        some ("200", some "*/*", "\x7b\"type\":\"string\"\x7d") := by decide +kernel
    obtain ⟨slot, hslot, hlabel, hmedia, -⟩ := exists_of_lookedUp hplain hd
    obtain ⟨slot', hslot', hlabel', hmedia', -⟩ := exists_of_lookedUp hhtml hd
    have hasked : Response.asked (some "text/plain") = MediaType.wildcard ↔
        Response.asked (some "text/html") = MediaType.wildcard := by decide +kernel
    exact ⟨d, slot, slot', hd, hslot, hslot', (keys_separate_schemas hd).1 .stop 200 200 _ _ slot
      slot' hslot hslot' (hlabel.trans hlabel'.symm) (hmedia.trans hmedia'.symm) (Or.inr hasked)⟩
  · obtain ⟨d, hd⟩ := Option.isSome_iff_exists.mp
      (show (Declaration.ofJson twoSpellings).toOption.isSome = true by decide +kernel)
    rw [Result.toOption_eq_some] at hd
    have hadded : (((ofConfig {}).run [spelledTwice]).routes[0]?).map
        (fun r => r.declaration.response) = some (some twoSpellings) := rfl
    obtain ⟨added, hget, hresponse⟩ := Option.map_eq_some_iff.mp hadded
    -- the calls leave the route what it was when it was added
    obtain ⟨r, hr, hsite⟩ := (continues_run ((ofConfig {}).run [spelledTwice])
      [.serialize ⟨0⟩ 204 none (.nat 5), .ready,
        .serialize ⟨0⟩ 204 none (.nat 5)]).routes 0 added hget
    have hdeclared : r.declared = .ok d := by
      rw [Route.eq_of_site Route.declared (fun _ => rfl) hsite]
      unfold Route.declared
      rw [hresponse]
      exact Result.mapError_eq_ok.mpr hd
    have hbare : Response.WildcardsAreBare twoSpellings := by
      intro entry hentry content hcontent
      have hnone : twoSpellings.members.all fun p => (p.2.get? "content").isNone := by
        decide +kernel
      have hnone := List.all_eq_true.mp hnone entry hentry
      rw [hcontent] at hnone
      cases hnone
    exact ⟨d, r, hd, hbare, hr, hdeclared,
      (keys_separate_schemas hd).2 hbare {} calledTwice ⟨0⟩ r hr hdeclared⟩

/-- **Two lookups of one key can find two schemas**: a key of a content map is brought to the text
of the wildcard, one lookup asks for `*/*` and finds it, the other asks for `text/plain` and finds
the wildcard.  They share an artifact, so the second is served by the serializer of the first: a
number for which a text is declared. -/
theorem not_keys_separate_schemas :
    (¬ ∀ (declaration : Json) (d : Declaration), Declaration.ofJson declaration = .ok d →
      ∀ policy status status' contentType contentType' slot slot',
        d.resolve? status contentType policy = some slot →
        d.resolve? status' contentType' policy = some slot' →
        slot.selector.label = slot'.selector.label → slot.mediaType = slot'.mediaType →
        slot.schema = slot'.schema) ∧
    (((ofConfig {}).run [.register (.addRoute .root
        { method := "GET", url := "/", response := some disguisedWildcard }), .ready]).serialize
      ⟨0⟩ 200 (some "text/plain") (.nat 5)).result.toOption.map Payload.toText = some "5" := by
  constructor
  · intro hall
    obtain ⟨d, hd⟩ := Option.isSome_iff_exists.mp
      (show (Declaration.ofJson disguisedWildcard).toOption.isSome = true by decide +kernel)
    rw [Result.toOption_eq_some] at hd
    have hwildcard : lookedUp disguisedWildcard 200 (some "*/*") =
        some ("200", some "*/*", "\x7b\"type\":\"integer\"\x7d") := by decide +kernel
    have hplain : lookedUp disguisedWildcard 200 (some "text/plain") =
        some ("200", some "*/*", "\x7b\"type\":\"string\"\x7d") := by decide +kernel
    obtain ⟨slot, hslot, hlabel, hmedia, htext⟩ := exists_of_lookedUp hwildcard hd
    obtain ⟨slot', hslot', hlabel', hmedia', htext'⟩ := exists_of_lookedUp hplain hd
    have hschema := hall disguisedWildcard d hd .stop 200 200 _ _ slot slot' hslot hslot'
      (hlabel.trans hlabel'.symm) (hmedia.trans hmedia'.symm)
    rw [hschema, htext'] at htext
    revert htext
    decide
  · decide +kernel

end Engine

end ReplySchema
