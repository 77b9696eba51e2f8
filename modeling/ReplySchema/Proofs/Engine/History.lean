import ReplySchema.Proofs.Engine.Operation
import ReplySchema.Proofs.Scope.Line

/-! # What was registered, and what the scopes hold

A history is the list of the registrations that were not refused (`Engine.accepted`).  What a
scope holds is what its history gave it (`Scope.Holds`): the last of each binding, and the
observers and documents in the order in which they came.

`alters_register?` says once what a registration may do to the scopes.  From it follows what
one step keeps (`Recorded.alters`), and by the induction on histories (`accepted_induct`) what
holds of every engine (`recorded_registerAll`).
-/

set_option autoImplicit false

namespace ReplySchema

/-! ## §1  What a registration gives -/

namespace Registration

def scope? : Registration → Option ScopeId
  | .childScope parent _ => some parent
  | .registerSchema scope _ => some scope
  | .setCompiler scope _ => some scope
  | .setReplySerializer scope _ => some scope
  | .setErrorHandler scope _ => some scope
  | .addObserver scope _ => some scope
  | .addRoute scope _ => some scope
  | .diagnose => none

def compiler? : Registration → Option (ScopeId × Compiler)
  | .setCompiler scope compiler => some (scope, compiler)
  | _ => none

/-- The serializer past the schemas that a registration binds, and to which scope. -/
def replySerializer? : Registration → Option (ScopeId × ReplySerializer)
  | .setReplySerializer scope serializer => some (scope, serializer)
  | _ => none

def errorHandler? : Registration → Option (ScopeId × ErrorHandler)
  | .setErrorHandler scope handler => some (scope, handler)
  | _ => none

def observer? : Registration → Option (ScopeId × Observer)
  | .addObserver scope observer => some (scope, observer)
  | _ => none

def document? : Registration → Option (ScopeId × Schema.Document)
  | .registerSchema scope root =>
      (Schema.Document.ofShared? root).toOption.map fun document => (scope, document)
  | _ => none

def change : Registration → Scope → Scope
  | .registerSchema _ root, s =>
      match Schema.Document.ofShared? root with
      | .ok document =>
          { s with
            schemas := { documents := s.schemas.documents ++ [document] }
            generation := s.generation + 1 }
      | .error _ => s
  | .setCompiler _ compiler, s => { s with compiler := some compiler }
  | .setReplySerializer _ serializer, s => { s with replySerializer := some serializer }
  | .setErrorHandler _ handler, s => { s with errorHandler := some handler }
  | .addObserver _ observer, s => { s with observers := s.observers ++ [observer] }
  | _, s => s

section

variable (r : Registration) (s : Scope)

theorem parent_change : (r.change s).parent = s.parent := by
  cases r with
  | registerSchema scope root =>
      simp only [change]
      cases Schema.Document.ofShared? root <;> rfl
  | _ => rfl

theorem compiler_change : (r.change s).compiler = (r.compiler?.map Prod.snd).or s.compiler := by
  cases r with
  | registerSchema scope root =>
      simp only [change]
      cases Schema.Document.ofShared? root <;> rfl
  | _ => rfl

theorem replySerializer_change :
    (r.change s).replySerializer = (r.replySerializer?.map Prod.snd).or s.replySerializer := by
  cases r with
  | registerSchema scope root =>
      simp only [change]
      cases Schema.Document.ofShared? root <;> rfl
  | _ => rfl

theorem errorHandler_change :
    (r.change s).errorHandler = (r.errorHandler?.map Prod.snd).or s.errorHandler := by
  cases r with
  | registerSchema scope root =>
      simp only [change]
      cases Schema.Document.ofShared? root <;> rfl
  | _ => rfl

theorem observers_change :
    (r.change s).observers = s.observers ++ (r.observer?.map Prod.snd).toList := by
  cases r with
  | registerSchema scope root =>
      simp only [change]
      cases Schema.Document.ofShared? root <;> exact (List.append_nil _).symm
  | addObserver scope observer => rfl
  | _ => exact (List.append_nil _).symm

theorem documents_change :
    (r.change s).schemas.documents =
        s.schemas.documents ++ (r.document?.map Prod.snd).toList ∧
      (r.change s).generation = s.generation + (r.document?.map Prod.snd).toList.length := by
  cases r with
  | registerSchema scope root =>
      simp only [change, document?]
      cases Schema.Document.ofShared? root with
      | error fault => exact ⟨(List.append_nil _).symm, rfl⟩
      | ok document => exact ⟨rfl, rfl⟩
  | _ => exact ⟨(List.append_nil _).symm, rfl⟩

end

/-- Whether a kind of gift goes to the scope that its registration is about. -/
def IsPlaced {α : Type} (pick : Registration → Option (ScopeId × α)) : Prop :=
  ∀ r scope v, pick r = some (scope, v) → r.scope? = some scope

theorem isPlaced_compiler? : IsPlaced compiler? := by
  intro r scope v h
  cases r <;> simp [compiler?, scope?] at h ⊢
  exact h.1

theorem isPlaced_replySerializer? : IsPlaced replySerializer? := by
  intro r scope v h
  cases r <;> simp [replySerializer?, scope?] at h ⊢
  exact h.1

theorem isPlaced_errorHandler? : IsPlaced errorHandler? := by
  intro r scope v h
  cases r <;> simp [errorHandler?, scope?] at h ⊢
  exact h.1

theorem isPlaced_observer? : IsPlaced observer? := by
  intro r scope v h
  cases r <;> simp [observer?, scope?] at h ⊢
  exact h.1

theorem isPlaced_document? : IsPlaced document? := by
  intro r scope v h
  cases r <;> simp [document?, scope?] at h ⊢
  exact h.2

end Registration

/-- What a history gave to a scope, in order. -/
def givenTo {α : Type} (pick : Registration → Option (ScopeId × α)) (past : List Registration)
    (id : ScopeId) : List α :=
  (past.filterMap pick).filterMap fun gift => if gift.1 = id then some gift.2 else none

section

variable {α : Type} {pick : Registration → Option (ScopeId × α)} {past : List Registration}
  {r : Registration} {id : ScopeId}

theorem givenTo_concat (pick : Registration → Option (ScopeId × α)) (past : List Registration)
    (r : Registration) (id : ScopeId) :
    givenTo pick (past ++ [r]) id = givenTo pick past id ++ givenTo pick [r] id := by
  unfold givenTo
  rw [List.filterMap_append, List.filterMap_append]

theorem givenTo_single_of_ne (hpick : Registration.IsPlaced pick) (h : r.scope? ≠ some id) :
    givenTo pick [r] id = [] := by
  unfold givenTo
  cases hgift : pick r with
  | none => simp [hgift]
  | some gift =>
      obtain ⟨scope, v⟩ := gift
      have hne : scope ≠ id := by
        rintro rfl
        exact h (hpick r scope v hgift)
      simp [hgift, hne]

/-- A registration gives what it has to the scope that it is about. -/
theorem givenTo_single_of_eq (hpick : Registration.IsPlaced pick) (h : r.scope? = some id) :
    givenTo pick [r] id = ((pick r).map Prod.snd).toList := by
  unfold givenTo
  cases hgift : pick r with
  | none => simp [hgift]
  | some gift =>
      obtain ⟨scope, v⟩ := gift
      obtain rfl : scope = id := Option.some.inj ((hpick r scope v hgift).symm.trans h)
      simp [hgift]

theorem givenTo_eq_nil (hpick : Registration.IsPlaced pick)
    (h : ∀ r ∈ past, r.scope? ≠ some id) : givenTo pick past id = [] := by
  unfold givenTo
  rw [List.filterMap_eq_nil_iff]
  rintro ⟨scope, v⟩ hgift
  obtain ⟨r, hr, hgift⟩ := List.mem_filterMap.mp hgift
  have hne : scope ≠ id := by
    rintro rfl
    exact h r hr (hpick r scope v hgift)
  exact if_neg hne

theorem mem_givenTo {v : α} : v ∈ givenTo pick past id ↔ ∃ r ∈ past, pick r = some (id, v) := by
  unfold givenTo
  constructor
  · intro h
    obtain ⟨⟨scope, w⟩, hgift, heq⟩ := List.mem_filterMap.mp h
    obtain ⟨r, hr, hgift⟩ := List.mem_filterMap.mp hgift
    simp only [Option.ite_none_right_eq_some, Option.some.injEq] at heq
    obtain ⟨rfl, rfl⟩ := heq
    exact ⟨r, hr, hgift⟩
  · rintro ⟨r, hr, hgift⟩
    exact List.mem_filterMap.mpr ⟨(id, v), List.mem_filterMap.mpr ⟨r, hr, hgift⟩, if_pos rfl⟩

end

/-! ## §2  What a scope holds -/

open Registration (compiler? replySerializer? errorHandler? observer? document?)

/-- Whether a scope holds what a history gave it: the last of each binding, and all observers and
documents. -/
structure Scope.Holds (s : Scope) (past : List Registration) (id : ScopeId) : Prop where
  compiler : s.compiler = (givenTo compiler? past id).getLast?
  replySerializer : s.replySerializer = (givenTo replySerializer? past id).getLast?
  errorHandler : s.errorHandler = (givenTo errorHandler? past id).getLast?
  observers : s.observers = givenTo observer? past id
  documents : s.schemas.documents = givenTo document? past id
  generation : s.generation = (givenTo document? past id).length

namespace Scope

variable {s : Scope} {past : List Registration} {r : Registration} {id : ScopeId}

theorem holds_new (parent : Option ScopeId) (address : String)
    (h : ∀ r ∈ past, r.scope? ≠ some id) : ({ parent, address } : Scope).Holds past id := by
  have hnil : ∀ {α : Type} {pick : Registration → Option (ScopeId × α)},
      Registration.IsPlaced pick → givenTo pick past id = [] :=
    fun hpick => givenTo_eq_nil hpick h
  constructor
  · rw [hnil Registration.isPlaced_compiler?]; rfl
  · rw [hnil Registration.isPlaced_replySerializer?]; rfl
  · rw [hnil Registration.isPlaced_errorHandler?]; rfl
  · rw [hnil Registration.isPlaced_observer?]
  · rw [hnil Registration.isPlaced_document?]
  · rw [hnil Registration.isPlaced_document?]; rfl

theorem Holds.concat_of_ne (h : s.Holds past id) (hne : r.scope? ≠ some id) :
    s.Holds (past ++ [r]) id := by
  have hsame : ∀ {α : Type} {pick : Registration → Option (ScopeId × α)},
      Registration.IsPlaced pick → givenTo pick (past ++ [r]) id = givenTo pick past id := by
    intro α pick hpick
    rw [givenTo_concat, givenTo_single_of_ne hpick hne, List.append_nil]
  constructor
  · rw [hsame Registration.isPlaced_compiler?, h.compiler]
  · rw [hsame Registration.isPlaced_replySerializer?, h.replySerializer]
  · rw [hsame Registration.isPlaced_errorHandler?, h.errorHandler]
  · rw [hsame Registration.isPlaced_observer?, h.observers]
  · rw [hsame Registration.isPlaced_document?, h.documents]
  · rw [hsame Registration.isPlaced_document?, h.generation]

theorem Holds.concat_change (h : s.Holds past id) (hr : r.scope? = some id) :
    (r.change s).Holds (past ++ [r]) id := by
  have hgiven : ∀ {α : Type} {pick : Registration → Option (ScopeId × α)},
      Registration.IsPlaced pick →
        givenTo pick (past ++ [r]) id = givenTo pick past id ++ ((pick r).map Prod.snd).toList := by
    intro α pick hpick
    rw [givenTo_concat, givenTo_single_of_eq hpick hr]
  have hlast : ∀ {α : Type} (o : Option α), o.toList.getLast? = o := by
    intro α o
    cases o <;> rfl
  constructor
  · rw [hgiven Registration.isPlaced_compiler?, List.getLast?_append, hlast,
      r.compiler_change, h.compiler]
  · rw [hgiven Registration.isPlaced_replySerializer?, List.getLast?_append,
      hlast, r.replySerializer_change, h.replySerializer]
  · rw [hgiven Registration.isPlaced_errorHandler?, List.getLast?_append,
      hlast, r.errorHandler_change, h.errorHandler]
  · rw [hgiven Registration.isPlaced_observer?, r.observers_change, h.observers]
  · rw [hgiven Registration.isPlaced_document?, (r.documents_change s).1, h.documents]
  · rw [hgiven Registration.isPlaced_document?, (r.documents_change s).2, h.generation,
      List.length_append]

end Scope

/-! ## §3  What a registration does to the scopes -/

namespace ScopeTree

/-- What a registration may do to the scopes: a new one is opened below the scope that it is
about, that scope is changed, or nothing happens. -/
inductive Alters (tree : ScopeTree) (r : Registration) : ScopeTree → Prop where
  | opens {parent : ScopeId} {above : Scope} (address : String) (hr : r.scope? = some parent)
      (hchange : ∀ s, r.change s = s) (hparent : tree.get? parent = some above) :
      Alters tree r { scopes := tree.scopes ++ [{ parent := some parent, address }] }
  | changes {scope : ScopeId} {tree' : ScopeTree} (hr : r.scope? = some scope)
      (h : tree.update scope r.change = .ok tree') : Alters tree r tree'
  | keeps (hchange : ∀ s, r.change s = s)
      (hscope : ∀ scope, r.scope? = some scope → ∃ s, tree.get? scope = some s) :
      Alters tree r tree

section

variable {tree tree' : ScopeTree} {r : Registration}

theorem Alters.exists_scope (h : tree.Alters r tree') {scope : ScopeId}
    (hr : r.scope? = some scope) : ∃ s, tree.get? scope = some s := by
  cases h with
  | opens address hparent hchange hget =>
      obtain rfl := Option.some.inj (hparent.symm.trans hr)
      exact ⟨_, hget⟩
  | changes hscope hu =>
      obtain rfl := Option.some.inj (hscope.symm.trans hr)
      obtain ⟨s, hs, -⟩ := update_eq_ok.mp hu
      exact ⟨s, hs⟩
  | keeps hchange hscope => exact hscope scope hr

/-- **What becomes of a scope**: it is changed if the registration is about it, and else it stays. -/
theorem Alters.get?_of_some (h : tree.Alters r tree') {id : ScopeId} {s : Scope}
    (hs : tree.get? id = some s) :
    tree'.get? id = some (if r.scope? = some id then r.change s else s) := by
  cases h with
  | opens address hr hchange hget =>
      rw [hchange, ite_self, ← hs]
      exact List.getElem?_append_left (exists_get?_iff.mp ⟨s, hs⟩)
  | changes hr hu =>
      rw [get?_update hu id, hs, hr]
      simp only [Option.some.injEq, Option.map_some]
      split
      · rename_i heq
        rw [if_pos heq.symm]
      · rename_i hne
        rw [if_neg (Ne.symm hne)]
  | keeps hchange hscope =>
      rw [hchange, ite_self, hs]

/-- **Where a new scope comes from**: it stands below an older one and holds nothing. -/
theorem Alters.get?_of_none (h : tree.Alters r tree') {id : ScopeId} {s : Scope}
    (hnone : tree.get? id = none) (hs : tree'.get? id = some s) :
    ∃ parent address, s = { parent := some parent, address } ∧ parent.index < id.index := by
  cases h with
  | @opens parent above address hr hchange hget =>
      have hlt := exists_get?_iff.mp ⟨above, hget⟩
      have hle : tree.scopes.length ≤ id.index := List.getElem?_eq_none_iff.mp hnone
      unfold get? at hs
      rw [List.getElem?_append_right hle] at hs
      obtain ⟨hfirst, hs⟩ := List.getElem?_eq_some_iff.mp hs
      rw [List.getElem_singleton] at hs
      exact ⟨parent, address, hs.symm, Nat.lt_of_lt_of_le hlt hle⟩
  | changes hr hu =>
      rw [get?_update hu id, hnone] at hs
      split at hs <;> cases hs
  | keeps hchange hscope =>
      rw [hnone] at hs
      cases hs

theorem Alters.parent_eq (h : tree.Alters r tree') {id : ScopeId} {s : Scope}
    (hs : tree.get? id = some s) :
    (tree'.get? id).map Scope.parent = (tree.get? id).map Scope.parent := by
  rw [h.get?_of_some hs, hs, Option.map_some, Option.map_some]
  split
  · rw [r.parent_change]
  · rfl

/-- **A registration keeps the way up from every older scope.** -/
theorem Alters.line_eq (h : tree.Alters r tree') {id : ScopeId} {s : Scope}
    (hs : tree.get? id = some s) : tree'.line id = tree.line id := by
  refine line_congr id ?_
  intro j hj
  obtain ⟨t, ht⟩ : ∃ t, tree.get? j = some t :=
    exists_get?_iff.mpr (Nat.lt_of_le_of_lt hj (exists_get?_iff.mp ⟨s, hs⟩))
  exact h.parent_eq ht

/-- **A registration does not matter to the scopes that are not below its own.** -/
theorem Alters.chain_eq (h : tree.Alters r tree') {id : ScopeId} {s : Scope}
    (hs : tree.get? id = some s) (hnot : ∀ scope, r.scope? = some scope → ¬ tree.IsAbove scope id) :
    tree'.chain id = tree.chain id := by
  rw [chain_eq_filterMap, chain_eq_filterMap, h.line_eq hs]
  refine List.filterMap_congr ?_
  intro j hj
  obtain ⟨t, ht⟩ := exists_of_mem_line id hj
  rw [h.get?_of_some ht, ht, if_neg]
  intro hr
  exact hnot j hr ((isAbove_iff id).mpr hj)

/-- **A registration leaves the scopes rooted.** -/
theorem IsRooted.alters (h : tree.IsRooted) (hstep : tree.Alters r tree') : tree'.IsRooted := by
  have hkept : ∀ id s, tree.get? id = some s → ∃ s', tree'.get? id = some s' ∧
      s'.parent = s.parent := by
    intro id s hs
    refine ⟨_, hstep.get?_of_some hs, ?_⟩
    split
    · exact r.parent_change s
    · rfl
  constructor
  · obtain ⟨s, hs, hparent⟩ := h.root
    obtain ⟨s', hs', hparent'⟩ := hkept .root s hs
    exact ⟨s', hs', hparent'.trans hparent⟩
  · intro id s' hs' hid
    cases hs : tree.get? id with
    | none =>
        obtain ⟨parent, address, rfl, hlt⟩ := hstep.get?_of_none hs hs'
        exact ⟨parent, rfl, hlt⟩
    | some s =>
        obtain ⟨s'', hs'', hparent⟩ := hkept id s hs
        obtain rfl := Option.some.inj (hs'.symm.trans hs'')
        rw [hparent]
        exact h.parent id s hs hid

end

theorem child_opens {tree tree' : ScopeTree} {parent id : ScopeId} {path : String}
    (h : tree.child parent path = .ok (tree', id)) :
    tree.Alters (.childScope parent path) tree' := by
  obtain ⟨above, habove, h⟩ := Result.bind_eq_ok.mp h
  rw [Result.pure_eq_ok, Prod.mk.injEq] at h
  rw [← h.1]
  exact .opens (Address.join above.address path) rfl (fun _ => rfl) (get_eq_ok.mp habove)

theorem registerSchema_changes {tree tree' : ScopeTree} {scope : ScopeId} {root : Json}
    (h : tree.registerSchema scope root = .ok tree') :
    tree.Alters (.registerSchema scope root) tree' := by
  obtain ⟨s, store, document, id, hs, hdocument, -, hstore, hu⟩ := registerSchema_document h
  obtain ⟨s', hs', rfl⟩ := update_eq_ok.mp hu
  obtain rfl := Option.some.inj (hs.symm.trans hs')
  have hstore' : store = { documents := s.schemas.documents ++ [document] } := by
    cases store
    rw [← hstore]
  refine .changes rfl (update_eq_ok.mpr ⟨s, hs, ?_⟩)
  simp only [Registration.change, hdocument, hstore']

end ScopeTree

namespace Engine

open ScopeTree (Alters)

/-- **What a registration does to the scopes**, if it is not refused. -/
theorem alters_register? {e e' : Engine} {r : Registration} (h : e.register? r = .ok e') :
    e.scopes.Alters r e'.scopes := by
  cases accepts_of_register? h with
  | childScope hchild => exact ScopeTree.child_opens hchild
  | registerSchema hscopes => exact ScopeTree.registerSchema_changes hscopes
  | setCompiler hscopes => exact .changes rfl hscopes
  | setReplySerializer hscopes => exact .changes rfl hscopes
  | setErrorHandler hscopes => exact .changes rfl hscopes
  | addObserver hscopes => exact .changes rfl hscopes
  | @addRoute scope above declaration habove =>
      refine .keeps (fun _ => rfl) ?_
      intro scope' hscope'
      obtain rfl : scope = scope' := Option.some.inj hscope'
      exact ⟨above, ScopeTree.get_eq_ok.mp habove⟩
  | diagnose => exact .keeps (fun _ => rfl) nofun

end Engine

/-! ## §4  Histories -/

/-- Whether scopes are what a history made them. -/
structure ScopeTree.Recorded (past : List Registration) (tree : ScopeTree) : Prop where
  rooted : tree.IsRooted
  known : ∀ r ∈ past, ∀ scope, r.scope? = some scope → ∃ s, tree.get? scope = some s
  holds : ∀ id s, tree.get? id = some s → s.Holds past id

namespace ScopeTree.Recorded

variable {past : List Registration} {r : Registration} {tree tree' : ScopeTree}

theorem root : Recorded [] {} := by
  have hroot : ∀ (id : ScopeId) (s : Scope), get? {} id = some s → id = .root ∧ s = {} := by
    intro id s hs
    obtain ⟨i⟩ := id
    cases i with
    | zero => exact ⟨rfl, (Option.some.inj hs).symm⟩
    | succ i => cases hs
  constructor
  · constructor
    · exact ⟨{}, rfl, rfl⟩
    · intro id s hs hid
      exact absurd (hroot id s hs).1 hid
  · intro r hr
    cases hr
  · intro id s hs
    rw [(hroot id s hs).2]
    exact Scope.holds_new none "" nofun

/-- **A registration keeps the scopes what the history made them.** -/
theorem alters (h : tree.Recorded past) (hstep : tree.Alters r tree') :
    tree'.Recorded (past ++ [r]) := by
  constructor
  · exact h.rooted.alters hstep
  · intro r' hr' scope hscope
    have hold : ∃ s, tree.get? scope = some s := by
      rcases List.mem_append.mp hr' with hr' | hr'
      · exact h.known r' hr' scope hscope
      · obtain rfl := List.mem_singleton.mp hr'
        exact hstep.exists_scope hscope
    obtain ⟨s, hs⟩ := hold
    exact ⟨_, hstep.get?_of_some hs⟩
  · intro id s' hs'
    cases hs : tree.get? id with
    | none =>
        obtain ⟨parent, address, rfl, -⟩ := hstep.get?_of_none hs hs'
        -- no registration is about a scope that was not there
        have hno : ∀ r' ∈ past, r'.scope? ≠ some id := by
          intro r' hr' hscope
          obtain ⟨s, hsome⟩ := h.known r' hr' id hscope
          rw [hs] at hsome
          cases hsome
        refine Scope.Holds.concat_of_ne (Scope.holds_new (some parent) address hno) ?_
        intro hscope
        obtain ⟨s, hsome⟩ := hstep.exists_scope hscope
        rw [hs] at hsome
        cases hsome
    | some s =>
        obtain rfl := Option.some.inj (hs'.symm.trans (hstep.get?_of_some hs))
        by_cases hr : r.scope? = some id
        · rw [if_pos hr]
          exact (h.holds id s hs).concat_change hr
        · rw [if_neg hr]
          exact (h.holds id s hs).concat_of_ne hr

/-- **The documents of a chain are those that the history gave to its scopes.** -/
theorem documents_eq (h : tree.Recorded past) (id : ScopeId) :
    tree.documents id = (tree.line id).reverse.flatMap (givenTo document? past) := by
  unfold documents Schema.Set.documentsOf
  rw [List.flatMap_map, List.flatMap_def, List.flatMap_def, List.map_reverse, List.map_reverse,
    map_chain_eq (fun j s hs => (h.holds j s hs).documents) id]

end ScopeTree.Recorded

namespace Engine

def accepted (e : Engine) : List Registration → List Registration
  | [] => []
  | r :: rest =>
      match e.register? r with
      | .ok e' => r :: e'.accepted rest
      | .error _ => e.accepted rest

/-- **The induction on histories**: what holds of an engine and its history holds later on, if every
registration that is not refused keeps it. -/
theorem accepted_induct {T : Engine → List Registration → Prop}
    (hstep : ∀ e e' past r, T e past → e.register? r = .ok e' → T e' (past ++ [r])) :
    ∀ (registrations : List Registration) (e : Engine) (past : List Registration), T e past →
      T (e.registerAll registrations) (past ++ e.accepted registrations)
  | [], e, past, h => by
      rw [accepted, List.append_nil]
      exact h
  | r :: rest, e, past, h => by
      show T ((e.register r).registerAll rest) _
      unfold accepted register
      cases hr : e.register? r with
      | error fault => exact accepted_induct hstep rest e past h
      | ok e' =>
          have hrest := accepted_induct hstep rest e' (past ++ [r]) (hstep e e' past r h hr)
          rw [List.append_assoc] at hrest
          exact hrest

/-- **The scopes of every engine are what its history made them.** -/
theorem recorded_registerAll (config : EngineConfig) (registrations : List Registration) :
    ((ofConfig config).registerAll registrations).scopes.Recorded
      ((ofConfig config).accepted registrations) :=
  accepted_induct (T := fun e past => e.scopes.Recorded past)
    (fun _ _ _ _ h hr => h.alters (alters_register? hr)) registrations (ofConfig config) []
    ScopeTree.Recorded.root

end Engine

end ReplySchema
