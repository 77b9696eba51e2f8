import ReplySchema.Proofs.Engine.History

/-! # What a scope inherits

Whatever is registered in whatever order, the way up from a scope is a list of scopes that get
older and ends at the root, and everything that is in force at the scope is read off the
registrations about the scopes of that list (`Inherits`): of bindings the last one of the
innermost scope that has one, of observers all, the outermost first, and of the schemas the
merge of the stores.

What is registered elsewhere does not matter (`inheritance_register`): neither beside the scope
nor below it.
-/

set_option autoImplicit false

namespace ReplySchema

-- Sums are those of the core library, whatever else is imported.
attribute [local instance (high)] Zero.ofOfNat0

open Registration (compiler? replySerializer? errorHandler? observer? document?)
open Schema (Document Set)

/-- What is in force at a scope. -/
structure Inheritance where
  line : List ScopeId
  compiler : Option Compiler
  replySerializer : Option ReplySerializer
  errorHandler : Option ErrorHandler
  observers : List Observer
  schemas : Set
  generation : Nat

def ScopeTree.inheritance (tree : ScopeTree) (id : ScopeId) : Inheritance where
  line := tree.line id
  compiler := tree.compiler? id
  replySerializer := tree.replySerializer? id
  errorHandler := tree.errorHandler? id
  observers := tree.observers id
  schemas := tree.schemaSet id
  generation := tree.generation id

/-- Whether a list is the way up from a scope: each scope is followed by its parent, an older one,
and the last is the root. -/
structure ScopeTree.IsWayUp (tree : ScopeTree) (id : ScopeId) (line : List ScopeId) : Prop where
  starts : line.head? = some id
  goesUp : line.IsChain fun j k => (tree.get? j).bind Scope.parent = some k
  getsOlder : line.Pairwise fun j k => k.index < j.index
  ends : line.getLast? = some .root

/-- Whether what is in force at a scope is what a history gave to the scopes on its way up. -/
structure Inherits (past : List Registration) (i : Inheritance) : Prop where
  compiler : i.compiler = i.line.findSome? fun j => (givenTo compiler? past j).getLast?
  replySerializer :
    i.replySerializer = i.line.findSome? fun j => (givenTo replySerializer? past j).getLast?
  errorHandler : i.errorHandler = i.line.findSome? fun j => (givenTo errorHandler? past j).getLast?
  observers : i.observers = i.line.reverse.flatMap (givenTo observer? past)
  generation : i.generation = (i.line.map fun j => (givenTo document? past j).length).sum
  schemas : i.schemas = Set.ofStores
    (i.line.reverse.map fun j => { documents := givenTo document? past j }) i.generation
  /-- An identifier means the document that the innermost scope was given last under it. -/
  documents : ∀ x, (Table.find? x i.schemas.documents).map Schema.Source.document =
    i.line.findSome? fun j => (givenTo document? past j).reverse.find? fun d => d.id = some x
  /-- An embedded identifier means a place in the last document of the innermost scope that has one
  under it. -/
  embedded : ∀ x,
    (Table.find? x i.schemas.embedded).map (fun e => (e.1.document, e.2)) =
      i.line.findSome? fun j => (givenTo document? past j).reverse.findSome? fun d =>
        (d.embeddedAt? x).map fun p => (d, p)

theorem findSome?_flatMap {α β γ : Type} (f : β → Option γ) (g : α → List β) : ∀ xs : List α,
    (xs.flatMap g).findSome? f = xs.findSome? fun x => (g x).findSome? f
  | [] => rfl
  | x :: rest => by
      rw [List.flatMap_cons, List.findSome?_append, findSome?_flatMap f g rest,
        List.findSome?_cons]
      cases (g x).findSome? f <;> rfl

namespace ScopeTree

variable {past : List Registration} {tree tree' : ScopeTree} {id : ScopeId} {s : Scope}

theorem IsRooted.isWayUp (h : tree.IsRooted) (hs : tree.get? id = some s) :
    tree.IsWayUp id (tree.line id) where
  starts := h.head?_line hs
  goesUp := h.isChain_line hs
  getsOlder := pairwise_line tree id
  ends := h.getLast?_line hs

/-- **What the scopes of a history have in force.** -/
theorem Recorded.inherits (h : tree.Recorded past) (id : ScopeId) :
    Inherits past (tree.inheritance id) := by
  have hgeneration : tree.generation id =
      ((tree.line id).map fun j => (givenTo document? past j).length).sum :=
    congrArg List.sum (map_chain_eq (fun j s hs => (h.holds j s hs).generation) id)
  have hstores : (tree.chain id).reverse.map Scope.schemas =
      (tree.line id).reverse.map fun j => { documents := givenTo document? past j } := by
    rw [List.map_reverse, List.map_reverse]
    congr 1
    refine map_chain_eq ?_ id
    intro j s hs
    rw [← (h.holds j s hs).documents]
  -- those that win come first: the innermost scope's, and of these the last
  have hdocuments : (tree.documents id).reverse =
      (tree.line id).flatMap fun j => (givenTo document? past j).reverse := by
    rw [h.documents_eq, List.reverse_flatMap, List.reverse_reverse]
    rfl
  constructor
  · exact findSome?_chain_eq (fun j s hs => (h.holds j s hs).compiler) id
  · exact findSome?_chain_eq (fun j s hs => (h.holds j s hs).replySerializer) id
  · exact findSome?_chain_eq (fun j s hs => (h.holds j s hs).errorHandler) id
  · show (tree.chain id).reverse.flatMap Scope.observers =
      (tree.line id).reverse.flatMap (givenTo observer? past)
    rw [List.flatMap_def, List.map_reverse,
      map_chain_eq (fun j s hs => (h.holds j s hs).observers) id, ← List.map_reverse,
      ← List.flatMap_def]
  · exact hgeneration
  · show tree.schemaSet id = Set.ofStores _ (tree.generation id)
    rw [schemaSet, hstores]
    rfl
  · intro x
    show (Table.find? x (tree.schemaSet id).documents).map _ = _
    rw [find?_documents_schemaSet, hdocuments, List.find?_flatMap]
    rfl
  · intro x
    show (Table.find? x (tree.schemaSet id).embedded).map _ = _
    rw [find?_embedded_schemaSet, hdocuments, findSome?_flatMap]
    rfl

/-- Scopes with the same way up and the same scopes on it have the same in force. -/
theorem inheritance_congr (hline : tree'.line id = tree.line id)
    (hchain : tree'.chain id = tree.chain id) : tree'.inheritance id = tree.inheritance id := by
  unfold inheritance compiler? replySerializer? errorHandler? observers schemaSet generation
  rw [hline, hchain]

end ScopeTree

namespace Engine

variable {e : Engine} {id : ScopeId} {s : Scope}

/-- **What is registered elsewhere does not matter**: neither beside a scope nor below it. -/
theorem inheritance_register (hs : e.scopes.get? id = some s) (r : Registration)
    (hnot : ∀ scope, r.scope? = some scope → ¬ e.scopes.IsAbove scope id) :
    (e.register r).scopes.inheritance id = e.scopes.inheritance id := by
  rcases e.register_eq r with heq | hok
  · rw [heq]
  · have halters := alters_register? hok
    exact ScopeTree.inheritance_congr (halters.line_eq hs) (halters.chain_eq hs hnot)

/-- **Scopes inherit along the way up, and from nowhere else.** -/
theorem inheritance_registerAll (config : EngineConfig) (registrations : List Registration)
    (id : ScopeId) (s : Scope)
    (hs : ((ofConfig config).registerAll registrations).scopes.get? id = some s) :
    let e := (ofConfig config).registerAll registrations
    let past := (ofConfig config).accepted registrations
    e.scopes.IsWayUp id (e.scopes.line id) ∧
      e.scopes.chain id = (e.scopes.line id).filterMap e.scopes.get? ∧
      Inherits past (e.scopes.inheritance id) ∧
      ∀ r : Registration, (∀ scope, r.scope? = some scope → ¬ e.scopes.IsAbove scope id) →
        (e.register r).scopes.inheritance id = e.scopes.inheritance id := by
  intro e past
  have hrecorded := recorded_registerAll config registrations
  exact ⟨hrecorded.rooted.isWayUp hs, e.scopes.chain_eq_filterMap id, hrecorded.inherits id,
    inheritance_register hs⟩

/-- The second of two siblings has the observer of the root, and takes no notice of the first. -/
theorem inheritance_registerAll_sibling :
    let e := (ofConfig {}).registerAll
      [.childScope .root "/a", .childScope .root "/b", .addObserver .root ⟨"log"⟩]
    (∃ s, e.scopes.get? ⟨2⟩ = some s) ∧ e.scopes.observers ⟨2⟩ = [⟨"log"⟩] ∧
      (e.register (.addObserver ⟨1⟩ ⟨"other"⟩)).scopes.inheritance ⟨2⟩ =
        e.scopes.inheritance ⟨2⟩ := by
  intro e
  have hs : e.scopes.get? ⟨2⟩ = some { parent := some .root, address := Address.join "" "/b" } := rfl
  have hline : e.scopes.line ⟨2⟩ = [⟨2⟩, .root] := by
    rw [ScopeTree.line_of_parent hs rfl (by decide)]
    rw [ScopeTree.line]
    rfl
  obtain ⟨-, -, hinherits, hisolated⟩ := inheritance_registerAll {} _ ⟨2⟩ _ hs
  refine ⟨⟨_, hs⟩, ?_, hisolated (.addObserver ⟨1⟩ ⟨"other"⟩) ?_⟩
  · rw [show e.scopes.observers ⟨2⟩ = _ from hinherits.observers]
    show (e.scopes.line ⟨2⟩).reverse.flatMap _ = _
    rw [hline]
    rfl
  · intro scope hscope habove
    obtain rfl := Option.some.inj hscope
    rw [ScopeTree.isAbove_iff, hline] at habove
    exact absurd habove (by decide)

end Engine

end ReplySchema
