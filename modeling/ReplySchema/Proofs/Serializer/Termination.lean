import ReplySchema.Proofs.Schema.Descent
import ReplySchema.Proofs.Serializer.Alone
import ReplySchema.Proofs.Serializer.Lockstep

/-! # The ways through schemas end

Schemas lead to each other and to themselves, and still each way through them is to end.  The check
enters a target once, and there are only so many (`comesOut_checkFrom`).  Bundling enters none inside
itself, and few inside one another (`acc_goes`).  Compiling hands out a place for a target when
it first comes to it (`compiled_nodup`).

But parts of `allOf` are compiled as they come out of bundling, and that can make them larger: where
items are a reference to a list, the list comes in with its references, and there may be parts in it
that are made ready in their turn.  A list can come in inside itself so, without end
(`not_traversals_end`).  If no list brings references into a part, then what is made ready inside a
part is finished, and compiling ends (`traversals_end`).
-/

set_option autoImplicit false

namespace ReplySchema

namespace Schema.Set

variable {set : Set} {base : Source}

/-! ## §1  The check -/

/-- What going through positions of a document comes to, however many targets have to be entered. -/
inductive Checks (set : Set) :
    Source → List (String × Json) → List Key → Except SchemaError (List Key) → Prop where
  | done {s : Source} {visited : List Key} : Checks set s [] visited (.ok visited)
  | passed {s : Source} {p : String × Json} {rest : List (String × Json)} {visited : List Key}
      {out : Except SchemaError (List Key)} (hr : reference? p.2 = none)
      (h : Checks set s rest visited out) : Checks set s (p :: rest) visited out
  | unresolved {s : Source} {p : String × Json} {rest : List (String × Json)} {visited : List Key}
      {r : String} {e : SchemaError} (hr : reference? p.2 = some r)
      (he : set.resolve r s = .error e) : Checks set s (p :: rest) visited (.error e)
  | met {s : Source} {p : String × Json} {rest : List (String × Json)} {visited : List Key}
      {out : Except SchemaError (List Key)} {r : String} {t : Target}
      (hr : reference? p.2 = some r) (ht : set.resolve r s = .ok t) (hmet : t.key ∈ visited)
      (h : Checks set s rest visited out) : Checks set s (p :: rest) visited out
  | failed {s : Source} {p : String × Json} {rest : List (String × Json)} {visited : List Key}
      {r : String} {t : Target} {e : SchemaError} (hr : reference? p.2 = some r)
      (ht : set.resolve r s = .ok t) (hnew : t.key ∉ visited)
      (h : Checks set t.source (positions "" t.schema) (t.key :: visited) (.error e)) :
      Checks set s (p :: rest) visited (.error e)
  | entered {s : Source} {p : String × Json} {rest : List (String × Json)}
      {visited middle : List Key} {out : Except SchemaError (List Key)} {r : String} {t : Target}
      (hr : reference? p.2 = some r) (ht : set.resolve r s = .ok t) (hnew : t.key ∉ visited)
      (h : Checks set t.source (positions "" t.schema) (t.key :: visited) (.ok middle))
      (hrest : Checks set s rest middle out) : Checks set s (p :: rest) visited out

/-- Whether the check of a schema comes to what it does with so much room, and then there is room
for what was not entered. -/
def ComesOut (set : Set) (base : Source) (room : Nat) (s : Source) (ps : List (String × Json))
    (visited : List Key) (out : Except SchemaError (List Key)) : Prop :=
  set.Checks s ps visited out ∧ ∀ after, out = .ok after → set.Fits base room after

/-- Going through positions comes out, if the check of each target does with less room. -/
theorem comesOut_foldlM {room : Nat} {s : Source} (hs : s ∈ set.sources base)
    (htarget : ∀ less < room, ∀ t : Target, t.source ∈ set.sources base → ∀ visited,
      set.Fits base less visited → set.ComesOut base less t.source (positions "" t.schema) visited
        (set.checkFrom less t.source t.schema visited)) :
    ∀ (ps : List (String × Json)) {visited : List Key},
      (∀ p ∈ ps, ∀ r, reference? p.2 = some r → r ∈ refsIn s.root) → set.Fits base room visited →
      set.ComesOut base room s ps visited
        (ps.foldlM (set.checkPosition s (set.enter room s)) visited) := by
  intro ps
  induction ps with
  | nil => exact fun _ hfits => ⟨.done, fun _ h => by cases h; exact hfits⟩
  | cons p rest ih =>
      intro visited hrefs hfits
      have hbehind := fun {visited} => @ih visited fun q hq => hrefs q (List.mem_cons_of_mem _ hq)
      rw [List.foldlM_cons]
      cases hr : reference? p.2 with
      | none =>
          rw [checkPosition_of_none hr]
          exact ⟨.passed hr (hbehind hfits).1, (hbehind hfits).2⟩
      | some r =>
          rw [checkPosition_of_some hr]
          cases ht : set.resolve r s with
          | error e => exact ⟨.unresolved hr ht, fun _ h => by cases h⟩
          | ok t =>
              change set.ComesOut base room s (p :: rest) visited
                ((if t.key ∈ visited then .ok visited else set.enter room s r t visited) >>= _)
              -- A target that was met costs nothing; a new one is one less to be met, which pays
              -- for its check.
              by_cases hmet : t.key ∈ visited
              · rw [if_pos hmet]
                exact ⟨.met hr ht hmet (hbehind hfits).1, (hbehind hfits).2⟩
              · have hkey : t.key ∈ set.possibleKeys base :=
                  mem_possibleKeys hs (hrefs p List.mem_cons_self r hr) ht
                obtain ⟨less, rfl, hless⟩ := hfits.enter hkey hmet
                have hbelow := htarget less (Nat.lt_succ_self less) t
                  (source_mem_of_resolve hs ht) _ hless
                rw [if_neg hmet]
                change set.ComesOut base (less + 1) s (p :: rest) visited
                  (set.checkFrom less t.source t.schema (t.key :: visited) >>= _)
                cases hout : set.checkFrom less t.source t.schema (t.key :: visited) with
                | error e =>
                    rw [hout] at hbelow
                    exact ⟨.failed hr ht hmet hbelow.1, fun _ h => by cases h⟩
                | ok middle =>
                    rw [hout] at hbelow
                    have hmiddle := hbelow.2 middle rfl
                    have hrest := @hbehind middle ⟨hmiddle.nodup, hmiddle.possible,
                      Nat.le_trans hmiddle.bound (by omega)⟩
                    exact ⟨.entered hr ht hmet hbelow.1 hrest.1, hrest.2⟩

theorem comesOut_checkFrom : ∀ (room : Nat) {s : Source} {v : Json} {visited : List Key},
    s ∈ set.sources base → (∀ r ∈ refsIn v, r ∈ refsIn s.root) → set.Fits base room visited →
    set.ComesOut base room s (positions "" v) visited (set.checkFrom room s v visited) := by
  intro room
  induction room using Nat.strongRecOn with
  | _ room ih =>
      intro s v visited hs hrefs hfits
      rw [checkFrom_eq_foldlM]
      refine comesOut_foldlM hs (fun less hless t ht visited hfits => ?_) _ (fun p hp r hr => ?_) hfits
      · exact ih less hless ht (fun r hr => mem_refsIn_of_at? t.found hr) hfits
      · exact hrefs r (mem_refsIn_of_mem_schemasIn (List.mem_map_of_mem hp)
          (mem_refsIn_of_reference? hr))

/-- **The check ends**: going through the positions of a document comes to something, and to what
the check says. -/
theorem exists_checks (set : Set) (base : Source) :
    ∃ out, set.Checks base (positions "" base.root) [] out ∧
      set.check base = out.map fun _ => () := by
  have hfits : set.Fits base (set.targetBound base) [] :=
    ⟨List.nodup_nil, List.nil_subset _, Nat.le_of_lt (by
      simpa using set.length_possibleKeys_lt base)⟩
  refine ⟨_, (comesOut_checkFrom _ List.mem_cons_self (fun _ h => h) hfits).1, ?_⟩
  unfold check
  cases set.checkFrom (set.targetBound base) base base.root [] with
  | error e => rfl
  | ok entered => rfl

/-! ## §2  Bundling -/

/-- **Bundling ends**: the way down that it goes ends everywhere. -/
theorem acc_goes : ∀ a : Stage, a.IsWithin bundleDepth →
    Acc (fun b a => set.Goes a b ∧ b.IsWithin bundleDepth) a := by
  refine stage_induct bundleDepth (fun around s v _ hv => ?_) (fun around s v r _ hr h => ?_)
    fun around s members _ hnone h => ?_
  · refine .intro _ fun b ⟨hgoes, _⟩ => ?_
    cases hgoes with
    | inside => cases hv
    | target hr =>
        cases v with
        | object members => cases hv
        | _ => cases hr
  · refine .intro _ fun b ⟨hgoes, hwithin⟩ => ?_
    cases hgoes with
    | inside hnone =>
        rw [hnone] at hr
        cases hr
    | target _ _ => exact h _ hwithin
  · refine .intro _ fun b ⟨hgoes, _⟩ => ?_
    cases hgoes with
    | inside _ hc => exact h _ hc
    | target hr =>
        rw [hnone] at hr
        cases hr

end Schema.Set

namespace Serializer.Arena

open Schema (Key Source referenceTo)
open Plan (treeSchema isSound_treeSchema isSound_treeSet partItemsStandAlone_tree)

/-! ## §3  Compiling with more room -/

section

variable {β δ : Type} {I : Arena → Prop}

/-- Whether a step that is allowed more does the same as one that does not use up its stack.  Even
if it does, `I` is kept. -/
def Widens (I : Arena → Prop) (x y : Building β) : Prop :=
  ∀ a, I a → I (x.run.run a).2 ∧
    ((x.run.run a).1 ≠ .error .stackUsedUp → y.run.run a = x.run.run a)

theorem widens_pure (w : β) : Widens I (pure w) (pure w) := fun _ ha => ⟨ha, fun _ => rfl⟩

theorem Widens.bind {x y : Building β} {f g : β → Building δ} (h : Widens I x y)
    (hf : ∀ w, Widens I (f w) (g w)) : Widens I (x >>= f) (y >>= g) := by
  intro a ha
  obtain ⟨hI, hsame⟩ := h a ha
  match hx : x.run.run a with
  | (.error e, a') =>
      rw [hx] at hI hsame
      rw [run_bind_error hx]
      exact ⟨hI, fun hne => run_bind_error (hsame fun h => hne (by cases h; rfl))⟩
  | (.ok w, a') =>
      rw [hx] at hI hsame
      obtain ⟨hI', hsame'⟩ := hf w a' hI
      rw [run_bind_ok hx, run_bind_ok (hsame fun h => by cases h)]
      exact ⟨hI', hsame'⟩

theorem widens_self {x : Building β} (h : ∀ a, I a → I (x.run.run a).2) : Widens I x x :=
  fun a ha => ⟨h a ha, fun _ => rfl⟩

end

section

/-- Whether `I` is kept when a cell is added, and when a target is entered and settled. -/
structure IsKept (I : Arena → Prop) : Prop where
  pushed : ∀ c a, I a → I (a.pushed c)
  entered : ∀ key a, I a → Table.find? key a.memo = none → I (a.entered key)
  settled : ∀ slot inner a, I a → I (a.settled slot inner)

variable {I : Arena → Prop} {onReference onReference' : Except SchemaError String → Building Nat}
variable (test : Json → Option Validator)

theorem widens_push (hkept : IsKept I) (c : Cell) : Widens I (push c) (push c) :=
  widens_self (hkept.pushed c)

mutual
/-- **A sketch is compiled the same with more room**, if its references are. -/
theorem widens_compile (hkept : IsKept I) : ∀ s : Sketch,
    s.Every (fun x => ∀ r, x = .reference r → Widens I (onReference r) (onReference' r)) →
    Widens I (compile onReference test s) (compile onReference' test s)
  | .any, _ => widens_push hkept .any
  | .reference r, h => h.self r rfl
  | .const v, _ => widens_push hkept (.const v)
  | .null, _ => widens_push hkept .null
  | .boolean, _ => widens_push hkept .boolean
  | .integer, _ => widens_push hkept .integer
  | .number, _ => widens_push hkept .number
  | .string, _ => widens_push hkept .string
  | .object properties required patterns others, h => by
      have hproperties := widens_compileProperties hkept properties fun p hp => h.part
        (List.mem_append_left _ (List.mem_append_left _ (List.mem_map_of_mem hp)))
      have hpatterns := widens_compilePatterns hkept patterns fun p hp => h.part
        (List.mem_append_left _ (List.mem_append_right _ (List.mem_map_of_mem hp)))
      have hothers := widens_compileOthers hkept others fun s hs => h.part (List.mem_append_right _ hs)
      rw [compile, compile]
      exact hproperties.bind fun _ => hpatterns.bind fun _ => hothers.bind fun _ =>
        widens_push hkept _
  | .array front rest, h => by
      have hfront := widens_compileList hkept front fun s hs => h.part (List.mem_append_left _ hs)
      have hrest := widens_compile hkept rest (h.part (List.mem_append_right _ List.mem_cons_self))
      rw [compile, compile]
      exact hfront.bind fun _ => hrest.bind fun _ => widens_push hkept _
  | .union branches, h => by
      have hbranches := widens_compileBranches hkept branches fun b hb => h.part (List.mem_map_of_mem hb)
      rw [compile, compile]
      exact hbranches.bind fun _ => widens_push hkept _
  | .nullable inner, h => by
      have hinner := widens_compile hkept inner (h.part List.mem_cons_self)
      rw [compile, compile]
      exact hinner.bind fun _ => widens_push hkept _

theorem widens_compileProperties (hkept : IsKept I) : ∀ ps : List (Property Sketch),
    (∀ p ∈ ps, p.shape.Every fun x => ∀ r, x = .reference r →
      Widens I (onReference r) (onReference' r)) →
    Widens I (compileProperties onReference test ps) (compileProperties onReference' test ps)
  | [], _ => widens_pure _
  | ⟨name, default, shape⟩ :: more, h => by
      have hshape := widens_compile hkept shape (h _ List.mem_cons_self)
      have hmore := widens_compileProperties hkept more fun p hp => h p (List.mem_cons_of_mem _ hp)
      rw [compileProperties, compileProperties]
      exact hshape.bind fun _ => hmore.bind fun _ => widens_pure _

theorem widens_compilePatterns (hkept : IsKept I) : ∀ ps : List (Pattern × Sketch),
    (∀ p ∈ ps, p.2.Every fun x => ∀ r, x = .reference r →
      Widens I (onReference r) (onReference' r)) →
    Widens I (compilePatterns onReference test ps) (compilePatterns onReference' test ps)
  | [], _ => widens_pure _
  | (pattern, shape) :: more, h => by
      have hshape := widens_compile hkept shape (h _ List.mem_cons_self)
      have hmore := widens_compilePatterns hkept more fun p hp => h p (List.mem_cons_of_mem _ hp)
      rw [compilePatterns, compilePatterns]
      exact hshape.bind fun _ => hmore.bind fun _ => widens_pure _

theorem widens_compileOthers (hkept : IsKept I) : ∀ o : Others Sketch,
    (∀ s ∈ o.shapes, s.Every fun x => ∀ r, x = .reference r →
      Widens I (onReference r) (onReference' r)) →
    Widens I (compileOthers onReference test o) (compileOthers onReference' test o)
  | .dropped, _ => widens_pure _
  | .plain, _ => widens_pure _
  | .shaped shape, h => by
      have hshape := widens_compile hkept shape (h shape List.mem_cons_self)
      rw [compileOthers, compileOthers]
      exact hshape.bind fun _ => widens_pure _

theorem widens_compileList (hkept : IsKept I) : ∀ ss : List Sketch,
    (∀ s ∈ ss, s.Every fun x => ∀ r, x = .reference r →
      Widens I (onReference r) (onReference' r)) →
    Widens I (compileList onReference test ss) (compileList onReference' test ss)
  | [], _ => widens_pure _
  | shape :: more, h => by
      have hshape := widens_compile hkept shape (h _ List.mem_cons_self)
      have hmore := widens_compileList hkept more fun s hs => h s (List.mem_cons_of_mem _ hs)
      rw [compileList, compileList]
      exact hshape.bind fun _ => hmore.bind fun _ => widens_pure _

theorem widens_compileBranches (hkept : IsKept I) : ∀ bs : List (Branch Json Sketch),
    (∀ b ∈ bs, b.shape.Every fun x => ∀ r, x = .reference r →
      Widens I (onReference r) (onReference' r)) →
    Widens I (compileBranches onReference test bs) (compileBranches onReference' test bs)
  | [], _ => widens_pure _
  | ⟨given, shape⟩ :: more, h => by
      have hshape := widens_compile hkept shape (h _ List.mem_cons_self)
      have hmore := widens_compileBranches hkept more fun b hb => h b (List.mem_cons_of_mem _ hb)
      rw [compileBranches, compileBranches]
      exact hshape.bind fun _ => hmore.bind fun _ => widens_pure _
end

end

variable {set : Schema.Set} {base : Source}

theorem isKept_true : IsKept fun _ => True :=
  ⟨fun _ _ _ => trivial, fun _ _ _ _ => trivial, fun _ _ _ _ => trivial⟩

theorem widens_onReference {I : Arena → Prop} (hkept : IsKept I) {parts parts' room room' : Nat}
    {s : Source} (reference : Except SchemaError String) (hroom : room ≤ room')
    (hbelow : ∀ r tg less less', reference = .ok r → set.resolve r s = .ok tg →
      room = less + 1 → room' = less' + 1 → Widens I
        (compileBelow set parts less tg.source (.ofSchemaWithin parts set tg.source tg.schema))
        (compileBelow set parts' less' tg.source (.ofSchemaWithin parts' set tg.source tg.schema))) :
    Widens I (onReference set parts room s reference) (onReference set parts' room' s reference) := by
  intro a ha
  cases htarget : reference.bind fun r => set.resolve r s with
  | error e =>
      rw [run_onReference_error htarget, run_onReference_error htarget]
      exact ⟨ha, fun _ => rfl⟩
  | ok tg =>
      obtain ⟨r, rfl, hresolve⟩ := Result.bind_eq_ok.mp htarget
      cases hmemo : Table.find? tg.key a.memo with
      | some i =>
          rw [run_onReference_met hresolve hmemo, run_onReference_met hresolve hmemo]
          exact ⟨ha, fun _ => rfl⟩
      | none =>
          rw [run_onReference_new hresolve hmemo, run_onReference_new hresolve hmemo]
          cases room with
          | zero => exact ⟨ha, fun h => absurd rfl h⟩
          | succ less =>
              obtain ⟨less', rfl⟩ : ∃ less', room' = less' + 1 := ⟨room' - 1, by omega⟩
              obtain ⟨hI, hsame⟩ := hbelow r tg less less' rfl hresolve rfl rfl _
                (hkept.entered tg.key a ha hmemo)
              dsimp only
              revert hI hsame
              generalize (compileBelow set parts less _ _).run.run _ = result
              generalize (compileBelow set parts' less' _ _).run.run _ = result'
              intro hI hsame
              match result with
              | (.error e, b) => exact ⟨hI, fun hne => by rw [hsame hne]⟩
              | (.ok inner, b) =>
                  exact ⟨hkept.settled _ _ b hI, fun _ => by rw [hsame fun h => by cases h]⟩

/-- **With more room the same is compiled**, as far as one comes only to schemas that are made ready
to the same. -/
theorem widens_below {I : Arena → Prop} (hkept : IsKept I) {parts parts' : Nat}
    {V : Source → Json → Prop}
    (hsame : ∀ s v, V s v → Sketch.ofSchemaWithin parts set s v = .ofSchemaWithin parts' set s v)
    (hleads : ∀ s v, V s v → (Sketch.ofSchemaWithin parts' set s v).Every fun x =>
      ∀ r tg, x = .reference (.ok r) → set.resolve r s = .ok tg → V tg.source tg.schema) :
    ∀ (room : Nat) {room' : Nat} {s : Source} {sketch : Sketch}, room ≤ room' →
    sketch.Every (fun x => ∀ r tg, x = .reference (.ok r) → set.resolve r s = .ok tg →
      V tg.source tg.schema) →
    Widens I (compileBelow set parts room s sketch) (compileBelow set parts' room' s sketch) := by
  intro room
  induction room using Nat.strongRecOn with
  | _ room ih =>
      intro room' s sketch hroom hsketch
      rw [compileBelow_eq_compile, compileBelow_eq_compile]
      refine widens_compile _ hkept sketch (hsketch.mono fun x hx r heq => ?_)
      refine widens_onReference hkept r hroom ?_
      rintro r tg less less' rfl hresolve rfl rfl
      have hV := hx r tg heq hresolve
      rw [hsame _ _ hV]
      exact ih less (Nat.lt_succ_self less) (Nat.le_of_succ_le_succ hroom) (hleads _ _ hV)

/-! ## §4  Each target once -/

/-- Whether no target was compiled twice, and those that were have places. -/
structure OnceEach (a : Arena) : Prop where
  nodup : a.compiled.Nodup
  placed : ∀ key ∈ a.compiled, Table.find? key a.memo ≠ none

theorem OnceEach.entered {a : Arena} {key : Key} (h : a.OnceEach)
    (hfresh : Table.find? key a.memo = none) : (a.entered key).OnceEach where
  nodup := by
    refine List.nodup_append.mpr ⟨h.nodup, List.nodup_singleton key, fun k hk k' hk' => ?_⟩
    rintro rfl
    exact h.placed k hk (List.mem_singleton.mp hk' ▸ hfresh)
  placed := fun k hk => by
    rw [find?_entered]
    split
    · exact Option.some_ne_none _
    · next hne =>
        rcases List.mem_append.mp hk with hk | hk
        · exact h.placed k hk
        · exact absurd (List.mem_singleton.mp hk).symm hne

theorem OnceEach.settled {a : Arena} (h : a.OnceEach) (slot inner : Nat) :
    (a.settled slot inner).OnceEach := by
  unfold Arena.settled
  split
  · exact h
  · exact ⟨h.nodup, h.placed⟩

theorem isKept_onceEach : IsKept OnceEach where
  pushed := fun _ _ h => ⟨h.nodup, h.placed⟩
  entered := fun _ _ h hfresh => h.entered hfresh
  settled := fun slot inner _ h => h.settled slot inner

/-- **Each target is compiled once at most**, whatever comes of the whole. -/
theorem compiled_nodup (set : Schema.Set) (parts room : Nat) (base : Source) (schema : Json) :
    (build set parts room base schema).2.compiled.Nodup :=
  (widens_below (V := fun _ _ => True) isKept_onceEach (fun _ _ _ => rfl)
    (fun _ _ _ => Shape.Every.of_forall (fun _ _ _ _ _ => trivial) _) room (Nat.le_refl room)
    (Shape.Every.of_forall (fun _ _ _ _ _ => trivial) _) {}
    ⟨List.nodup_nil, fun _ h => by cases h⟩).1.nodup

/-! ## §5  Parts without lists that bring in references -/

/-- If lists bring no references into the parts, then what is made ready inside a part is finished,
and more room changes nothing. -/
theorem ofSchemaWithin_eq {s : Source} {v : Json} (h : PartItemsStandAlone set s v) (m n : Nat) :
    Sketch.ofSchemaWithin (m + 1) set s v = Sketch.ofSchemaWithin (n + 1) set s v := by
  refine Sketch.sketch_congr fun w hw => ?_
  cases hbundle : (Sketch.partsOf w.members).mapM (set.bundleSchema s) with
  | error e =>
      rw [Sketch.bundled, Sketch.bundled, hbundle]
      rfl
  | ok parts =>
      rw [Sketch.bundled_succ hbundle m, Sketch.bundled_succ hbundle n]
      split
      · rfl
      · refine congrArg Except.ok (Sketch.layeredList_congr fun j hj w' hw' => ?_)
        obtain ⟨part, hpart, hj⟩ := Result.mem_of_mapM_eq_ok hbundle j hj
        have halone : Schema.StandsAlone j := Schema.Set.standsAlone_bundleSchema
          (h s w (Schema.Set.walks_of_mem_schemasIn hw) part hpart) hj
        refine Sketch.bundled_of_standsAlone set set s s (fun part' hpart' => ?_) _ _
        have hwalk : Schema.Set.Walks set s j s w' := Schema.Set.walks_of_mem_schemasIn hw'
        exact Schema.Set.StandsAlone.walk halone (hwalk.held (Sketch.held_of_mem_partsOf hpart'))

theorem failsOnly_resolve (r : String) (s : Source) :
    Result.FailsOnly (· ≠ .stackUsedUp) (set.resolve r s) := by
  intro e he
  unfold Schema.Set.resolve at he
  split at he
  · cases he
  · cases he
    nofun

/-- Nor is the stack used up while such a schema is made ready, and its references lead to such
schemas. -/
theorem fit_of_parts {s : Source} (hset : set.IsSound base) (hs : s ∈ set.sources base) {v : Json}
    (h : PartItemsStandAlone set s v) (hsound : v.IsSound) (room : Nat) :
    (Sketch.ofSchemaWithin (room + 1) set s v).Every (Sketch.IsFit
      (fun r => ∀ t, set.resolve r s = .ok t → PartItemsStandAlone set t.source t.schema)
      (· ≠ .stackUsedUp)) := by
  have hforms : Sketch.FollowsForms (PartItemsStandAlone set s) (fun _ => True) (Sketch.IsFit
      (fun r => ∀ t, set.resolve r s = .ok t → PartItemsStandAlone set t.source t.schema)
      (· ≠ .stackUsedUp)) :=
    Sketch.followsForms_fit (fun v r hv hr t ht => hv.walk (.target .here hr ht))
      (fun v c hv hc => hv.walk (.held .here (Sketch.held_of_mem_inside hc)))
      fun v part hv hpart => hv.walk (.held .here (Sketch.held_of_mem_partsOf hpart))
  have halone : Sketch.FollowsForms Schema.StandsAlone (fun _ => True) (Sketch.IsFit
      (fun r => ∀ t, set.resolve r s = .ok t → PartItemsStandAlone set t.source t.schema)
      (· ≠ .stackUsedUp)) :=
    Sketch.followsForms_fit (fun v r hv hr => by
        rw [hv v (Schema.mem_schemasIn_self v)] at hr
        cases hr)
      (fun v c hv hc => hv.held (Sketch.held_of_mem_inside hc))
      fun v part hv hpart => hv.held (Sketch.held_of_mem_partsOf hpart)
  refine Sketch.every_ofSchemaWithin hset hs hforms halone (fun _ h => h)
    (fun v _ part _ e he => ⟨nofun, fun e' heq => ?_, nofun⟩) room h hsound
  cases heq
  exact Schema.Set.failsOnly_bundleSchema (fun s' _ _ r _ => failsOnly_resolve r s') e he

/-- Whether a schema is met, and lists bring no references into the parts. -/
structure IsPlainlyMet (set : Schema.Set) (base s : Source) (v : Json) : Prop
    extends IsMet set base s v where
  parts : PartItemsStandAlone set s v

theorem covers_isPlainlyMet (hset : set.IsSound base) (parts : Nat) :
    Covers set base (parts + 1) (IsPlainlyMet set base) (· ≠ .stackUsedUp) where
  source := fun _ _ h => h.source
  same := fun _ _ h => ofSchemaWithin_eq h.parts parts 9999
  fit := fun _ _ h => ((fit_of_isMet hset h.toIsMet Sketch.stackRoom).and
    (fit_of_parts hset h.source h.parts h.sound 9999)).mono fun _ hx =>
      ⟨fun r heq => ⟨(hx.1.reference r heq).1, fun t ht =>
        ⟨(hx.1.reference r heq).2 t ht, hx.2.reference r heq t ht⟩⟩, hx.2.error, hx.2.nullable⟩

/-- **Compiling ends** if lists bring no references into the parts: as long as there is room for all
targets that can be met, it does not use up the stack, and it comes to the same. -/
theorem exists_outcome (hset : set.IsSound base) {schema : Json} (hsound : schema.IsSound)
    (hparts : PartItemsStandAlone set base schema) : ∃ outcome,
      outcome.1 ≠ .error .stackUsedUp ∧
      (∀ parts room, set.targetBound base ≤ room →
        Arena.build set (parts + 1) room base schema = outcome) ∧
      ∀ rounding, (Plan.build set base schema rounding).map (fun _ => ()) =
        outcome.1.map fun _ => () := by
  have hbase : base ∈ set.sources base := List.mem_cons_self
  have hfit := fit_of_parts hset hbase hparts hsound 9999
  have hleads : ∀ r tg, (∀ t, set.resolve r base = .ok t →
      PartItemsStandAlone set t.source t.schema) → set.resolve r base = .ok tg →
      IsPlainlyMet set base tg.source tg.schema := fun r tg hplain ht =>
    ⟨isMet_target hset hbase ht, hplain tg ht⟩
  have hempty : HasRoom set base (set.targetBound base) (set.targetBound base) 1 [] := by
    have hle : Plan.unmet set base [] ≤ (set.possibleKeys base).length := List.length_filter_le _ _
    have hlt := Schema.Set.length_possibleKeys_lt set base
    exact ⟨by omega, by omega⟩
  -- In step with the plan, whose building ends by itself, the compiler fails only as that does.
  have hagree : Agree _ _ [] {}
      (Plan.linkBelow set (set.targetBound base) base (.ofSchema set base schema))
      (compileBelow set 1 (set.targetBound base) base (.ofSchema set base schema)) At :=
    agree_below (covers_isPlainlyMet hset 0)
    (fun r s e he => failsOnly_resolve r s e he) (set.targetBound base)
    (hfit.mono fun x hx => ⟨fun r heq tg ht => ⟨hleads r tg (hx.reference r heq) ht,
      fun h => by cases h⟩, hx.error, hx.nullable⟩) paired_empty hempty
  have hsketch : ∀ parts, Sketch.ofSchemaWithin (parts + 1) set base schema =
      Sketch.ofSchema set base schema := fun parts => ofSchemaWithin_eq hparts parts 9999
  have hends : (Arena.build set 1 (set.targetBound base) base schema).1 ≠ .error .stackUsedUp ∧
      ∀ rounding, (Plan.build set base schema rounding).map (fun _ => ()) =
        (Arena.build set 1 (set.targetBound base) base schema).1.map fun _ => () := by
    unfold Arena.build Plan.build
    rw [hsketch 0]
    cases hagree with
    | error hx hy he =>
        simp only [hx, hy]
        exact ⟨fun h => he (by cases h; rfl), fun _ => rfl⟩
    | ok hx hy =>
        simp only [hx, hy]
        exact ⟨nofun, fun _ => rfl⟩
  refine ⟨_, hends.1, fun parts room hroom => ?_, hends.2⟩
  have hcovers := covers_isPlainlyMet hset parts
  -- More room for parts and for targets changes nothing once there was enough.
  have hwider := widens_below isKept_true
    (fun _ _ h => ((covers_isPlainlyMet hset 0).same _ _ h).trans (hcovers.same _ _ h).symm)
    (fun s v h => by
      rw [hcovers.same s v h]
      exact (hcovers.fit s v h).mono fun y hy r u heq hu => (hy.reference r heq).2 u hu)
    (set.targetBound base) hroom (hfit.mono fun x hx r tg heq ht =>
      hleads r tg (hx.reference r heq) ht) {} trivial
  unfold Arena.build at hends ⊢
  rw [hsketch 0] at hends ⊢
  rw [hsketch parts]
  exact hwider.2 hends.1

/-! ## §6  A list that comes in inside itself -/

def itemsPart : Json := .object [("items", referenceTo "#/examples")]

def partExample : Json := .object [("allOf", .array [itemsPart])]

def loopSchema : Json :=
  .object [("allOf", .array [itemsPart]), ("examples", .array [partExample])]

/-- The part when it is bundled: the example has come in, and in it the part as it was. -/
def bundledPart : Json := .object [("items", .array [partExample])]

theorem isSound_loopSchema : loopSchema.IsSound := by
  have hpart : itemsPart.IsSound :=
    Json.isSound_cons (by decide) (isSound_referenceTo _) Json.isSound_nil
  have hexample : partExample.IsSound := Json.isSound_cons (by decide)
    (.array fun c hc => List.mem_singleton.mp hc ▸ hpart) Json.isSound_nil
  exact Json.isSound_cons (by decide) (.array fun c hc => List.mem_singleton.mp hc ▸ hpart)
    (Json.isSound_cons (by decide) (.array fun c hc => List.mem_singleton.mp hc ▸ hexample)
      Json.isSound_nil)

theorem bundleSchema_itemsPart :
    (Schema.Set.ofStores [] 0).bundleSchema (.ofInline loopSchema) itemsPart = .ok bundledPart := by
  have hitems : (Schema.Set.ofStores [] 0).replacement Schema.Set.bundleDepth []
      (.ofInline loopSchema) "#/examples" = .ok (.array [partExample]) :=
    Schema.Set.replacement_of_pointer "/examples" (.array [partExample]) (by decide +kernel)
      (by decide) rfl fun _ => rfl
  rw [Schema.Set.bundleSchema, Schema.Set.bundleBelow_eq_inline]
  generalize (Schema.Set.ofStores [] 0).replacement Schema.Set.bundleDepth []
    (.ofInline loopSchema) = follow at *
  simp [itemsPart, bundledPart, referenceTo, Schema.inline, Schema.inlining, Schema.inlineMembers,
    Schema.listKeywords, Schema.reference?, Json.get?, Table.find?,
    Json.asString?, hitems, bind, Except.bind, pure, Except.pure]

/-- The entries of such a list are made ready with what is left of the room. -/
theorem sketch_of_itemsPart {make make' : List Json → Except SchemaError (List Layered)}
    (hmake : make [itemsPart] = .ok (Sketch.layeredList (some make') [bundledPart])) {v : Json}
    (hv : v = partExample ∨ v = loopSchema) :
    Sketch.sketch (some make) v = .array [Sketch.sketch (some make') partExample] .any := by
  have hlayers : Sketch.layeredList (some make') [bundledPart] =
      [.plain { items := .given (.listed [Sketch.sketch (some make') partExample]) }] := rfl
  have hshape : ∀ rest : List (String × Json),
      (Sketch.withParts (some make) {} (("allOf", .array [itemsPart]) :: rest)).shape =
        .array [Sketch.sketch (some make') partExample] .any := by
    intro rest
    rw [Sketch.withParts, if_pos rfl]
    simp only [hmake, hlayers]
    rfl
  rcases hv with rfl | rfl
  · exact hshape _
  · exact hshape _

theorem compile_loop {onReference : Except SchemaError String → Building Nat}
    (herror : ∀ e a, ((onReference (.error e)).run.run a).1 = .error e)
    (test : Json → Option Validator) : ∀ (room : Nat) {v : Json},
      v = partExample ∨ v = loopSchema → ∀ a : Arena,
      ((compile onReference test
        (.ofSchemaWithin room (.ofStores [] 0) (.ofInline loopSchema) v)).run.run a).1 =
          .error .stackUsedUp := by
  have hparts : [itemsPart].mapM ((Schema.Set.ofStores [] 0).bundleSchema (.ofInline loopSchema)) =
      .ok [bundledPart] := by
    rw [List.mapM_cons, bundleSchema_itemsPart]
    rfl
  intro room
  induction room with
  | zero =>
      intro v hv a
      have hready : Sketch.bundled ((Schema.Set.ofStores [] 0).bundleSchema (.ofInline loopSchema)) 0
          [itemsPart] = .error .stackUsedUp := by
        rw [Sketch.bundled, hparts]
        rfl
      have hsketch : Sketch.ofSchemaWithin 0 (.ofStores [] 0) (.ofInline loopSchema) v =
          .reference (.error .stackUsedUp) := by
        unfold Sketch.ofSchemaWithin
        rcases hv with rfl | rfl
        all_goals
          change (Sketch.withParts _ {} (("allOf", .array [itemsPart]) :: _)).shape = _
          rw [Sketch.withParts, if_pos rfl]
          simp only [hready]
          rfl
      rw [hsketch]
      exact herror _ a
  | succ room ih =>
      intro v hv a
      have hready := Sketch.bundled_succ hparts room
      rw [if_neg (by decide +kernel)] at hready
      have hsketch : Sketch.ofSchemaWithin (room + 1) (.ofStores [] 0) (.ofInline loopSchema) v =
          .array [Sketch.ofSchemaWithin room (.ofStores [] 0) (.ofInline loopSchema) partExample]
            .any := sketch_of_itemsPart hready hv
      have hfails : (compile onReference test (.ofSchemaWithin room (.ofStores [] 0)
          (.ofInline loopSchema) partExample)).run.run a = (.error .stackUsedUp, _) :=
        Prod.ext (ih (Or.inl rfl) a) rfl
      rw [hsketch, compile, compileList]
      exact congrArg Prod.fst (run_bind_error (run_bind_error hfails))

/-! ## §7  The ways end -/

/-- **The ways through schemas end.**  Whatever documents there are, and however they lead to each
other and to themselves: the check comes to something, to what it says; bundling goes a way down that
ends; and compiling compiles no target twice.  It ends too, if no reference inside a part of `allOf`
turns items into a list that holds references.  Then it does with room for one part inside another
and for as many targets as there are, and with more room it comes to the same. -/
theorem traversals_end {set : Schema.Set} {base : Source} (hset : set.IsSound base) {schema : Json}
    (hsound : schema.IsSound) :
    (∃ out, set.Checks base (Schema.positions "" base.root) [] out ∧
      set.check base = out.map fun _ => ()) ∧
    (∀ v, Acc (fun b a => set.Goes a b ∧ b.IsWithin Schema.Set.bundleDepth) (.start base v)) ∧
    (∀ parts room, (Arena.build set parts room base schema).2.compiled.Nodup) ∧
    (PartItemsStandAlone set base schema → ∃ outcome, outcome.1 ≠ .error .stackUsedUp ∧
      (∀ parts room, set.targetBound base ≤ room →
        Arena.build set (parts + 1) room base schema = outcome) ∧
      ∀ rounding, (Plan.build set base schema rounding).map (fun _ => ()) =
        outcome.1.map fun _ => ()) :=
  ⟨set.exists_checks base, fun _ => Schema.Set.acc_goes _ Schema.Set.isWithin_start,
    fun parts room => compiled_nodup set parts room base schema, exists_outcome hset hsound⟩

theorem traversals_end_tree :
    PartItemsStandAlone (.ofStores [] 0) (.ofInline treeSchema) treeSchema ∧
    ∃ arena, (∀ parts room, 4 ≤ room →
      Arena.build (.ofStores [] 0) (parts + 1) room (.ofInline treeSchema) treeSchema =
        (.ok 10, arena)) ∧
      arena.compiled = [(.inline, "/definitions/tag"), (.inline, "")] := by
  obtain ⟨-, -, -, hends⟩ := traversals_end isSound_treeSet isSound_treeSchema
  obtain ⟨⟨root, arena⟩, -, hbuild, -⟩ := hends partItemsStandAlone_tree
  have hroot : ((Arena.build (.ofStores [] 0) 1 4 (.ofInline treeSchema)
      treeSchema).1.toOption = some 10) ∧
      (Arena.build (.ofStores [] 0) 1 4 (.ofInline treeSchema) treeSchema).2.compiled =
        [(.inline, "/definitions/tag"), (.inline, "")] := by
    decide +kernel
  have hbound : (Schema.Set.ofStores [] 0).targetBound (.ofInline treeSchema) = 4 := by
    decide +kernel
  rw [hbound] at hbuild
  rw [hbuild 0 4 (Nat.le_refl 4), Result.toOption_eq_some] at hroot
  obtain ⟨rfl, hcompiled⟩ := hroot
  exact ⟨partItemsStandAlone_tree, arena, hbuild, hcompiled⟩

/-- **Compiling need not end** where items turn out to be a list that brings the part in again: the
references lead somewhere, and it can be bundled, but however much of the stack there is, compiling
uses it up. -/
theorem not_traversals_end :
    (Schema.Set.ofStores [] 0).IsSound (.ofInline loopSchema) ∧
    (Schema.Set.ofStores [] 0).check (.ofInline loopSchema) = .ok () ∧
    (∀ parts room, (Arena.build (.ofStores [] 0) parts room (.ofInline loopSchema) loopSchema).1 =
      .error .stackUsedUp) ∧
    ∀ rounding, Plan.build (.ofStores [] 0) (.ofInline loopSchema) loopSchema rounding =
      .error .stackUsedUp := by
  have hset : (Schema.Set.ofStores [] 0).IsSound (.ofInline loopSchema) := by
    intro s hs
    rw [List.mem_singleton.mp hs]
    exact isSound_loopSchema
  have hbuild : ∀ parts room,
      (Arena.build (.ofStores [] 0) parts room (.ofInline loopSchema) loopSchema).1 =
        .error .stackUsedUp := by
    intro parts room
    unfold Arena.build
    rw [compileBelow_eq_compile]
    exact compile_loop (fun e a => congrArg Prod.fst (run_onReference_error rfl a)) _ parts
      (Or.inr rfl) {}
  refine ⟨hset, Result.toOption_eq_some.mp (by decide +kernel), hbuild, fun rounding => ?_⟩
  have hplan := map_build hset isSound_loopSchema (Nat.le_refl _) rounding
  rw [hbuild] at hplan
  exact Result.map_eq_error.mp hplan

end Serializer.Arena

end ReplySchema
