import Mathlib.Data.Finset.Card
import Mathlib.Logic.Relation
import ReplySchema.Cache
import ReplySchema.Proofs.Result

/-! # A cache in use

A cache is asked for artifacts, compiles what it has not, and is cleared.  Its callers see
only what was compiled and when it was cleared, and from that past a naive program can tell
what is kept: for each key, what the last successful compilation since the last clearing
made.

No lock is held while a compile function runs.  It may use the cache by itself, and others may use
the cache before it is done.  All that they do is a row of steps, each of which happens at once
(`Step`), and so is all that a call does (`later_call`).  What every step keeps therefore holds
after calls of any kind: the cache has an artifact of the version that was made last for a key,
and only of that version.

The second look is for artifacts of the own version that come in meanwhile (`compiled_meanwhile`).
Calls that come one after the other have compile functions that leave the cache alone.  There the
second look finds nothing, and the cache keeps the very artifact that was made last.
-/

set_option autoImplicit false

namespace ReplySchema.Cache

/-! ## §1  Looking up and keeping -/

section Entries

variable {α : Type}

theorem get?_eq_some {key : ArtifactKey} {version : Version} {a : α} {c : Cache α} :
    c.get? key version = some a ↔ Table.find? key c.entries = some (version, a) := by
  unfold get?
  cases h : Table.find? key c.entries with
  | none => simp
  | some e =>
      obtain ⟨v, b⟩ := e
      by_cases hv : v = version
      · simp [hv]
      · simp [hv]

theorem find?_insert (key k : ArtifactKey) (version : Version) (a : α) (c : Cache α) :
    Table.find? k (c.insert key version a).entries =
      if key = k then some (version, a) else Table.find? k c.entries := by
  unfold insert
  simp [Table.find?_insert]

/-- What a call finds: nothing in a cache that is switched off. -/
def served? (key : ArtifactKey) (version : Version) (c : Cache α) : Option α :=
  if c.enabled then c.get? key version else none

theorem served?_of_enabled {c : Cache α} (h : c.enabled = true) (key : ArtifactKey)
    (version : Version) : c.served? key version = c.get? key version := if_pos h

theorem served?_of_disabled {c : Cache α} (h : c.enabled = false) (key : ArtifactKey)
    (version : Version) : c.served? key version = none := by
  rw [served?, h]
  rfl

theorem served?_eq_some {key : ArtifactKey} {version : Version} {a : α} {c : Cache α} :
    c.served? key version = some a ↔ c.enabled = true ∧ c.get? key version = some a := by
  unfold served?
  split
  · next h => simp [h]
  · next h => simp [h]

/-- The artifact that a call answers with which made one, and the cache after it. -/
def settle (key : ArtifactKey) (version : Version) (a : α) (c : Cache α) : α × Cache α :=
  if c.enabled then c.keep key version a else (a, c)

/-- The cache after a call that made an artifact and found no other. -/
def stored (key : ArtifactKey) (version : Version) (a : α) (c : Cache α) : Cache α :=
  if c.enabled then c.insert key version a else c

theorem find?_stored (key k : ArtifactKey) (version : Version) (a : α) (c : Cache α) :
    Table.find? k (c.stored key version a).entries =
      if c.enabled ∧ key = k then some (version, a) else Table.find? k c.entries := by
  unfold stored
  cases c.enabled with
  | false => simp
  | true => simp [find?_insert]

@[simp] theorem enabled_stored (key : ArtifactKey) (version : Version) (a : α) (c : Cache α) :
    (c.stored key version a).enabled = c.enabled := by
  unfold stored
  split <;> rfl

theorem stored_of_disabled {c : Cache α} (h : c.enabled = false) (key : ArtifactKey)
    (version : Version) (a : α) : c.stored key version a = c := by
  rw [stored, h]
  rfl

theorem served?_stored_self (key : ArtifactKey) (version : Version) (a : α) (c : Cache α) :
    (c.stored key version a).served? key version = if c.enabled then some a else none := by
  cases h : c.enabled with
  | false =>
      rw [stored_of_disabled h, served?_of_disabled h]
      rfl
  | true =>
      refine served?_eq_some.mpr ⟨(enabled_stored key version a c).trans h, get?_eq_some.mpr ?_⟩
      rw [find?_stored, if_pos ⟨h, rfl⟩]

/-- The second look finds nothing: the artifact is the answer and is put into the cache. -/
theorem settle_of_none {key : ArtifactKey} {version : Version} {c : Cache α}
    (h : c.served? key version = none) (a : α) :
    c.settle key version a = (a, c.stored key version a) := by
  unfold settle stored
  cases hc : c.enabled with
  | false => rfl
  | true =>
      rw [served?_of_enabled hc] at h
      simp only [keep, h, if_true]

/-- The second look finds an artifact: that one is the answer, and the cache stays as it is. -/
theorem settle_of_some {key : ArtifactKey} {version : Version} {c : Cache α} {b : α}
    (h : c.served? key version = some b) (a : α) : c.settle key version a = (b, c) := by
  obtain ⟨hc, hget⟩ := served?_eq_some.mp h
  simp only [settle, keep, hc, hget, if_true]

theorem settle_of_disabled {c : Cache α} (h : c.enabled = false) (key : ArtifactKey)
    (version : Version) (a : α) : c.settle key version a = (a, c) := by
  rw [settle, h]
  rfl

theorem enabled_settle (key : ArtifactKey) (version : Version) (a : α) (c : Cache α) :
    (c.settle key version a).2.enabled = c.enabled := by
  cases h : c.served? key version with
  | none => rw [settle_of_none h, enabled_stored]
  | some b => rw [settle_of_some h]

/-- After a call that made an artifact there is one of its version under its key, and under the
other keys there is what was there before. -/
theorem find?_settle {c : Cache α} (hc : c.enabled = true) (key k : ArtifactKey)
    (version : Version) (a : α) :
    Table.find? k (c.settle key version a).2.entries =
      if key = k then some (version, (c.settle key version a).1) else Table.find? k c.entries := by
  cases h : c.served? key version with
  | none =>
      rw [settle_of_none h, find?_stored]
      simp only [hc, true_and]
  | some b =>
      rw [settle_of_some h]
      split
      · next hk => exact hk ▸ get?_eq_some.mp (served?_eq_some.mp h).2
      · rfl

theorem nodup_keys_settle {c : Cache α} (h : (Table.keys c.entries).Nodup) (key : ArtifactKey)
    (version : Version) (a : α) : (Table.keys (c.settle key version a).2.entries).Nodup := by
  cases hserved : c.served? key version with
  | some b => rwa [settle_of_some hserved]
  | none =>
      rw [settle_of_none hserved, stored]
      split
      · exact Table.nodup_keys_insert key (version, a) h
      · exact h

end Entries

/-! ## §2  The past of a cache -/

/-- What the callers of a cache see happen. -/
inductive Happening (ε α : Type) where
  /-- A compile function was invoked for a key and a version and came to a result. -/
  | compiled (key : ArtifactKey) (version : Version) (result : Except ε α)
  | cleared

variable {σ ε α : Type}

/-- What the last successful compilation for a key since the last clearing made, and for which
version.  The past is told from the latest happening back. -/
def lastMade (key : ArtifactKey) : List (Happening ε α) → Option (Version × α)
  | [] => none
  | .cleared :: _ => none
  | .compiled k version (.ok a) :: older =>
      if k = key then some (version, a) else lastMade key older
  | .compiled _ _ (.error _) :: older => lastMade key older

/-- The key of every successful compilation since the last clearing. -/
def keysMade : List (Happening ε α) → List ArtifactKey
  | [] => []
  | .cleared :: _ => []
  | .compiled k _ (.ok _) :: older => k :: keysMade older
  | .compiled _ _ (.error _) :: older => keysMade older

/-- The keys that were compiled are those for which there is a last compilation. -/
theorem mem_keysMade {key : ArtifactKey} {past : List (Happening ε α)} :
    key ∈ keysMade past ↔ (lastMade key past).isSome := by
  fun_induction keysMade past with
  | case1 => simp [lastMade]
  | case2 => simp [lastMade]
  | case3 k version a older ih =>
      rw [List.mem_cons, ih, lastMade]
      by_cases hk : k = key
      · simp [hk]
      · simp [hk, Ne.symm hk]
  | case4 k version error older ih => exact ih

theorem lastMade_append {key : ArtifactKey} {version : Version} {a : α}
    {newer past : List (Happening ε α)} (h : lastMade key (newer ++ past) = some (version, a)) :
    .compiled key version (.ok a) ∈ newer ∨ lastMade key past = some (version, a) := by
  induction newer with
  | nil => exact Or.inr h
  | cons x newer ih =>
      cases x with
      | cleared => cases h
      | compiled k v result =>
          cases result with
          | error error => exact (ih h).imp_left (List.mem_cons_of_mem _)
          | ok b =>
              rw [List.cons_append, lastMade] at h
              split at h
              · next hk =>
                  obtain ⟨rfl, rfl⟩ := Prod.mk.inj (Option.some.inj h)
                  exact Or.inl (hk ▸ List.mem_cons_self)
              · exact (ih h).imp_left (List.mem_cons_of_mem _)

/-! ## §3  What happens to a cache -/

/-- A cache in use: the world that compile functions act on, the cache, and what happened, the
latest first. -/
structure Use (σ ε α : Type) where
  world : σ
  cache : Cache α
  past : List (Happening ε α) := []

namespace Use

instance (priority := low) : MonadStateOf (Cache α) (StateM (Use σ ε α)) where
  get := do return (← get).cache
  set cache := modify fun u => { u with cache }
  modifyGet f := modifyGet fun u =>
    let (result, cache) := f u.cache
    (result, { u with cache })

def made (key : ArtifactKey) (version : Version) (a : α) (u : Use σ ε α) : Use σ ε α :=
  { u with
    cache := (u.cache.settle key version a).2
    past := .compiled key version (.ok a) :: u.past }

def failed (key : ArtifactKey) (version : Version) (error : ε) (u : Use σ ε α) : Use σ ε α :=
  { u with past := .compiled key version (.error error) :: u.past }

def cleared (u : Use σ ε α) : Use σ ε α :=
  { u with cache := u.cache.clear, past := .cleared :: u.past }

/-- What happens to a cache at once. -/
inductive Step : Use σ ε α → Use σ ε α → Prop where
  | worked (u : Use σ ε α) (world : σ) : Step u { u with world }
  | made (u : Use σ ε α) (key : ArtifactKey) (version : Version) (a : α) :
      Step u (u.made key version a)
  | failed (u : Use σ ε α) (key : ArtifactKey) (version : Version) (error : ε) :
      Step u (u.failed key version error)
  | cleared (u : Use σ ε α) : Step u u.cleared

/-- Whether a use comes from another one by steps, whoever takes them. -/
abbrev Later : Use σ ε α → Use σ ε α → Prop := Relation.ReflTransGen Step

theorem Later.enabled {u u' : Use σ ε α} (h : Later u u') : u'.cache.enabled = u.cache.enabled := by
  induction h with
  | refl => rfl
  | tail _ hstep ih =>
      cases hstep with
      | made key version a => exact (enabled_settle key version a _).trans ih
      | _ => exact ih

theorem Later.past {u u' : Use σ ε α} (h : Later u u') : ∃ newer, u'.past = newer ++ u.past := by
  induction h with
  | refl => exact ⟨[], rfl⟩
  | tail _ hstep ih =>
      obtain ⟨newer, hnewer⟩ := ih
      cases hstep with
      | worked world => exact ⟨newer, hnewer⟩
      | _ => exact ⟨_ :: newer, congrArg (_ :: ·) hnewer⟩

end Use

/-! ## §4  Calls -/

/-- A compile function.  It may use the cache, and others may use the cache before it is done: all
that is done meanwhile is a row of steps. -/
structure CompileFunction (σ ε α : Type) where
  body : ExceptT ε (StateM (Use σ ε α)) α
  later : ∀ u, Use.Later u (body.run.run u).2

/-- Whether a compile function leaves the cache alone, as it does if each call is over before the
next one begins. -/
def CompileFunction.LeavesCache (compile : CompileFunction σ ε α) : Prop :=
  ∀ u, (compile.body.run.run u).2.cache = u.cache ∧ (compile.body.run.run u).2.past = u.past

/-- A call of a cache.  A compile function comes with the call. -/
inductive Call (σ ε α : Type) where
  | get (key : ArtifactKey) (version : Version)
  | getOrCompile (key : ArtifactKey) (version : Version) (compile : CompileFunction σ ε α)
  | clear

/-- Whether nothing is done to the cache from the begin of a call to its end, save by the call. -/
def Call.IsAlone : Call σ ε α → Prop
  | .getOrCompile _ _ compile => compile.LeavesCache
  | _ => True

namespace Use

def noted (key : ArtifactKey) (version : Version) (compile : CompileFunction σ ε α) :
    ExceptT ε (StateM (Use σ ε α)) α :=
  ExceptT.mk do
    let result ← compile.body.run
    modify fun u => { u with past := .compiled key version result :: u.past }
    return result

/-- The artifact of a key, compiled and kept if there is none of this version. -/
def getOrCompile (key : ArtifactKey) (version : Version) (compile : CompileFunction σ ε α) :
    ExceptT ε (StateM (Use σ ε α)) α :=
  Cache.getOrCompile key version (noted key version compile)

/-- What a call comes to after its compile function. -/
def finish (key : ArtifactKey) (version : Version) :
    Except ε α × Use σ ε α → Except ε α × Use σ ε α
  | (.ok a, u) => (.ok (u.cache.settle key version a).1, u.made key version a)
  | (.error error, u) => (.error error, u.failed key version error)

def call (u : Use σ ε α) : Call σ ε α → Use σ ε α
  | .get _ _ => u
  | .getOrCompile key version compile => ((getOrCompile key version compile).run.run u).2
  | .clear => u.cleared

def after (enabled : Bool) (world : σ) (calls : List (Call σ ε α)) : Use σ ε α :=
  calls.foldl call { world, cache := { enabled } }

theorem after_snoc (enabled : Bool) (world : σ) (calls : List (Call σ ε α)) (c : Call σ ε α) :
    after enabled world (calls ++ [c]) = (after enabled world calls).call c := by
  unfold after
  rw [List.foldl_append]
  rfl

theorem run_noted (key : ArtifactKey) (version : Version) (compile : CompileFunction σ ε α)
    (u : Use σ ε α) :
    (noted key version compile).run.run u =
      ((compile.body.run.run u).1,
        { (compile.body.run.run u).2 with
          past := .compiled key version (compile.body.run.run u).1 ::
            (compile.body.run.run u).2.past }) := rfl

theorem run_getCache (u : Use σ ε α) :
    (getThe (Cache α) : ExceptT ε (StateM (Use σ ε α)) (Cache α)).run.run u = (.ok u.cache, u) :=
  rfl

/-- An artifact that is found is the answer, and nothing is invoked or changed. -/
theorem run_getOrCompile_of_some {u : Use σ ε α} {key : ArtifactKey} {version : Version} {a : α}
    (h : u.cache.served? key version = some a) (compile : CompileFunction σ ε α) :
    (getOrCompile key version compile).run.run u = (.ok a, u) := by
  obtain ⟨hc, hget⟩ := served?_eq_some.mp h
  unfold getOrCompile Cache.getOrCompile
  rw [Result.run_bind, run_getCache]
  dsimp only
  rw [hc, hget]
  rfl

/-- Where none is found the compile function is invoked, and its artifact is kept unless there is
one behind the lock. -/
theorem run_getOrCompile_of_none {u : Use σ ε α} {key : ArtifactKey} {version : Version}
    (h : u.cache.served? key version = none) (compile : CompileFunction σ ε α) :
    (getOrCompile key version compile).run.run u =
      finish key version (compile.body.run.run u) := by
  have henabled := (compile.later u).enabled
  have hnoted := run_noted key version compile u
  rcases hbody : compile.body.run.run u with ⟨result, u'⟩
  rw [hbody] at henabled hnoted
  unfold getOrCompile Cache.getOrCompile
  rw [Result.run_bind, run_getCache]
  dsimp only at henabled hnoted ⊢
  cases hc : u.cache.enabled with
  | false =>
      change (noted key version compile).run.run u = _
      rw [hnoted]
      cases result with
      | error error => rfl
      | ok a => simp only [finish, made, settle_of_disabled (henabled.trans hc)]
  | true =>
      rw [served?_of_enabled hc] at h
      rw [h]
      change (noted key version compile >>= fun a =>
        modifyGetThe (Cache α) (keep key version a)).run.run u = _
      rw [Result.run_bind, hnoted]
      cases result with
      | error error => rfl
      | ok a =>
          have hsettle : u'.cache.settle key version a = u'.cache.keep key version a :=
            if_pos (henabled.trans hc)
          simp only [finish, made, hsettle]
          rfl

/-- All that a call does is a row of steps. -/
theorem later_call (u : Use σ ε α) : ∀ c : Call σ ε α, Later u (u.call c)
  | .get _ _ => .refl
  | .clear => .single (.cleared u)
  | .getOrCompile key version compile => by
      show Later u ((getOrCompile key version compile).run.run u).2
      cases h : u.cache.served? key version with
      | some a =>
          rw [run_getOrCompile_of_some h]
      | none =>
          rw [run_getOrCompile_of_none h]
          have hlater := compile.later u
          rcases hrun : compile.body.run.run u with ⟨result, u'⟩
          rw [hrun] at hlater
          cases result with
          | ok a => exact hlater.tail (.made u' key version a)
          | error error => exact hlater.tail (.failed u' key version error)

theorem later_after (enabled : Bool) (world : σ) (calls : List (Call σ ε α)) :
    Later { world, cache := { enabled } } (after enabled world calls) := by
  induction calls using List.reverseRecOn with
  | nil => exact .refl
  | append_singleton calls c ih =>
      rw [after_snoc]
      exact ih.trans (later_call _ c)

end Use

def CompileFunction.ofWorld (f : σ → Except ε α × σ) : CompileFunction σ ε α where
  body := ExceptT.mk fun u => ((f u.world).1, { u with world := (f u.world).2 })
  later u := .single (.worked u _)

theorem leavesCache_ofWorld (f : σ → Except ε α × σ) :
    (CompileFunction.ofWorld f).LeavesCache := fun _ => ⟨rfl, rfl⟩

def CompileFunction.asking (key : ArtifactKey) (version : Version)
    (inner compile : CompileFunction σ ε α) : CompileFunction σ ε α where
  body := do
    let _ ← Use.getOrCompile key version inner
    compile.body
  later u := by
    have hinner : Use.Later u ((Use.getOrCompile key version inner).run.run u).2 :=
      Use.later_call u (.getOrCompile key version inner)
    rw [ExceptT.run_bind, StateT.run_bind]
    rcases hrun : (Use.getOrCompile key version inner).run.run u with ⟨result, u'⟩
    rw [hrun] at hinner
    cases result with
    | error error => exact hinner
    | ok a => exact hinner.trans (compile.later u')

namespace Use

/-! ## §5  What is kept -/

/-- A cache that is switched on keeps artifacts of the versions that were made last. -/
structure KeepsVersions (u : Use σ ε α) : Prop where
  enabled : u.cache.enabled = true
  found : ∀ key,
    (Table.find? key u.cache.entries).map Prod.fst = (lastMade key u.past).map Prod.fst
  distinct : (Table.keys u.cache.entries).Nodup

theorem keepsVersions_new (world : σ) :
    KeepsVersions ({ world, cache := { enabled := true } } : Use σ ε α) where
  enabled := rfl
  found _ := rfl
  distinct := List.nodup_nil

theorem KeepsVersions.step {u u' : Use σ ε α} (h : KeepsVersions u) (hstep : Step u u') :
    KeepsVersions u' := by
  cases hstep with
  | worked world => exact ⟨h.enabled, h.found, h.distinct⟩
  | failed key version error => exact ⟨h.enabled, h.found, h.distinct⟩
  | cleared => exact ⟨h.enabled, fun _ => rfl, List.nodup_nil⟩
  | made key version a =>
      refine ⟨(enabled_settle key version a u.cache).trans h.enabled, fun k => ?_,
        nodup_keys_settle h.distinct key version a⟩
      show (Table.find? k (u.cache.settle key version a).2.entries).map Prod.fst =
        (lastMade k (.compiled key version (.ok a) :: u.past)).map Prod.fst
      rw [find?_settle h.enabled, lastMade]
      split
      · rfl
      · exact h.found k

theorem KeepsVersions.later {u u' : Use σ ε α} (h : KeepsVersions u) (hlater : Later u u') :
    KeepsVersions u' := by
  induction hlater with
  | refl => exact h
  | tail _ hstep ih => exact ih.step hstep

theorem keepsVersions_after (world : σ) (calls : List (Call σ ε α)) :
    KeepsVersions (after true world calls) :=
  (keepsVersions_new world).later (later_after true world calls)

theorem KeepsVersions.isSome_get?_iff {u : Use σ ε α} (h : KeepsVersions u) {key : ArtifactKey}
    {version : Version} :
    (u.cache.get? key version).isSome = true ↔ ∃ a, lastMade key u.past = some (version, a) := by
  have hfound := h.found key
  unfold get?
  cases hentry : Table.find? key u.cache.entries with
  | none =>
      rw [hentry] at hfound
      rw [Option.map_eq_none_iff.mp hfound.symm]
      simp
  | some e =>
      obtain ⟨v, b⟩ := e
      rw [hentry] at hfound
      obtain ⟨⟨v', a⟩, hlast, rfl⟩ := Option.map_eq_some_iff.mp hfound.symm
      rw [hlast]
      by_cases hv : v' = version
      · simp [hv]
      · simp [hv]

theorem KeepsVersions.size {u : Use σ ε α} (h : KeepsVersions u) :
    u.cache.size = (keysMade u.past).toFinset.card := by
  have hkeys : (Table.keys u.cache.entries).toFinset = (keysMade u.past).toFinset := by
    ext key
    have hfound := congrArg Option.isSome (h.found key)
    rw [Option.isSome_map, Option.isSome_map] at hfound
    rw [List.mem_toFinset, List.mem_toFinset, Table.mem_keys_iff_find?_isSome, hfound,
      mem_keysMade]
  calc u.cache.size = (Table.keys u.cache.entries).length := (List.length_map _).symm
    _ = (Table.keys u.cache.entries).toFinset.card :=
        (List.toFinset_card_of_nodup h.distinct).symm
    _ = (keysMade u.past).toFinset.card := congrArg Finset.card hkeys

/-- **What the second look finds was compiled meanwhile**, for the key and the version that the
call has. -/
theorem KeepsVersions.compiled_meanwhile {u u' : Use σ ε α} (h : KeepsVersions u)
    (hlater : Later u u') {key : ArtifactKey} {version : Version}
    (hfirst : u.cache.get? key version = none)
    (hsecond : (u'.cache.get? key version).isSome = true) :
    ∃ newer, u'.past = newer ++ u.past ∧ ∃ a, .compiled key version (.ok a) ∈ newer := by
  obtain ⟨newer, hpast⟩ := hlater.past
  obtain ⟨a, hlast⟩ := (h.later hlater).isSome_get?_iff.mp hsecond
  rw [hpast] at hlast
  refine ⟨newer, hpast, a, (lastMade_append hlast).resolve_right fun hold => ?_⟩
  have hsome := h.isSome_get?_iff.mpr ⟨a, hold⟩
  rw [hfirst] at hsome
  cases hsome

/-- The cache keeps, for each key, the very artifact that was made last. -/
structure KeepsLast (u : Use σ ε α) : Prop where
  enabled : u.cache.enabled = true
  found : ∀ key, Table.find? key u.cache.entries = lastMade key u.past

/-- A call during which nothing else is done to the cache keeps what was made last: where the first
look finds nothing the second one finds nothing. -/
theorem KeepsLast.call {u : Use σ ε α} (h : KeepsLast u) : ∀ {c : Call σ ε α}, c.IsAlone →
    KeepsLast (u.call c)
  | .get _ _, _ => h
  | .clear, _ => ⟨h.enabled, fun _ => rfl⟩
  | .getOrCompile key version compile, halone => by
      show KeepsLast ((getOrCompile key version compile).run.run u).2
      cases hserved : u.cache.served? key version with
      | some a =>
          rw [run_getOrCompile_of_some hserved]
          exact h
      | none =>
          rw [run_getOrCompile_of_none hserved]
          obtain ⟨hcache, hpast⟩ := halone u
          rcases hrun : compile.body.run.run u with ⟨result, u'⟩
          rw [hrun] at hcache hpast
          cases result with
          | error error =>
              exact ⟨(congrArg Cache.enabled hcache).trans h.enabled, fun k => by
                show Table.find? k u'.cache.entries = lastMade k u'.past
                rw [hcache, hpast, h.found]⟩
          | ok a =>
              dsimp only at hcache hpast
              refine ⟨?_, fun k => ?_⟩
              · show (u'.cache.settle key version a).2.enabled = true
                rw [enabled_settle, hcache, h.enabled]
              · show Table.find? k (u'.cache.settle key version a).2.entries =
                  lastMade k (.compiled key version (.ok a) :: u'.past)
                rw [hcache, hpast, find?_settle h.enabled, settle_of_none hserved, lastMade,
                  h.found]

theorem keepsLast_after (world : σ) {calls : List (Call σ ε α)} (halone : ∀ c ∈ calls, c.IsAlone) :
    KeepsLast (after true world calls) := by
  induction calls using List.reverseRecOn with
  | nil => exact ⟨rfl, fun _ => rfl⟩
  | append_singleton calls c ih =>
      rw [after_snoc]
      exact (ih fun c hc => halone c (List.mem_append_left _ hc)).call
        (halone c (List.mem_append_right _ List.mem_cons_self))

/-- The cache is switched off and keeps nothing. -/
structure Off (u : Use σ ε α) : Prop where
  disabled : u.cache.enabled = false
  empty : u.cache.entries = []

theorem Off.get?_eq_none {u : Use σ ε α} (h : Off u) (key : ArtifactKey) (version : Version) :
    u.cache.get? key version = none := by
  unfold get?
  rw [h.empty]
  rfl

theorem Off.step {u u' : Use σ ε α} (h : Off u) (hstep : Step u u') : Off u' := by
  cases hstep with
  | worked world => exact ⟨h.disabled, h.empty⟩
  | failed key version error => exact ⟨h.disabled, h.empty⟩
  | cleared => exact ⟨h.disabled, rfl⟩
  | made key version a =>
      have hsame : (u.cache.settle key version a).2 = u.cache :=
        congrArg Prod.snd (settle_of_disabled h.disabled key version a)
      exact ⟨(congrArg Cache.enabled hsame).trans h.disabled,
        (congrArg Cache.entries hsame).trans h.empty⟩

theorem Off.later {u u' : Use σ ε α} (h : Off u) (hlater : Later u u') : Off u' := by
  induction hlater with
  | refl => exact h
  | tail _ hstep ih => exact ih.step hstep

theorem off_after (world : σ) (calls : List (Call σ ε α)) : Off (after false world calls) :=
  Off.later ⟨rfl, rfl⟩ (later_after false world calls)

/-! ## §6  The cache as a map of versions -/

/-- A call invokes its compile function, once.  If that leaves the cache alone its result is the
answer, and an error leaves the cache as it was. -/
structure Compiles (u : Use σ ε α) (key : ArtifactKey) (version : Version)
    (compile : CompileFunction σ ε α) : Prop where
  run : (getOrCompile key version compile).run.run u =
    finish key version (compile.body.run.run u)
  alone : compile.LeavesCache → ∃ cache, (getOrCompile key version compile).run.run u =
      ((compile.body.run.run u).1,
        { world := (compile.body.run.run u).2.world, cache,
          past := .compiled key version (compile.body.run.run u).1 :: u.past }) ∧
    ∀ error, (compile.body.run.run u).1 = .error error → cache = u.cache

theorem compiles_of_none {u : Use σ ε α} {key : ArtifactKey} {version : Version}
    (h : u.cache.served? key version = none) (compile : CompileFunction σ ε α) :
    Compiles u key version compile := by
  have hrun := run_getOrCompile_of_none h compile
  refine ⟨hrun, fun halone => ?_⟩
  obtain ⟨hcache, hpast⟩ := halone u
  rw [hrun]
  rcases hbody : compile.body.run.run u with ⟨result, u'⟩
  rw [hbody] at hcache hpast
  dsimp only at hcache hpast
  cases result with
  | error error =>
      refine ⟨u'.cache, ?_, fun _ _ => hcache⟩
      rw [finish, failed, hpast]
  | ok a =>
      refine ⟨(u.cache.stored key version a), ?_, fun _ h => by cases h⟩
      rw [finish, made, hcache, hpast, settle_of_none h]

/-- A cache behaves as the map from each key to the version that was made last. -/
structure Refines (u : Use σ ε α) : Prop where
  /-- An artifact is found if the last one for its key was made for the version asked for. -/
  get : ∀ key version,
    (u.cache.get? key version).isSome = true ↔ ∃ a, lastMade key u.past = some (version, a)
  /-- An artifact that is found is the answer, and nothing is invoked or changed. -/
  found : ∀ key version compile a, u.cache.get? key version = some a →
    (getOrCompile key version compile).run.run u = (.ok a, u)
  /-- Where none is found there is a compilation. -/
  missing : ∀ key version compile, u.cache.get? key version = none →
    Compiles u key version compile
  /-- As many keys as were compiled successfully are kept. -/
  size : u.cache.size = (keysMade u.past).toFinset.card

/-- A cache keeps nothing and compiles at each call. -/
structure Forgets (u : Use σ ε α) : Prop where
  get : ∀ key version, u.cache.get? key version = none
  missing : ∀ key version compile, Compiles u key version compile
  size : u.cache.size = 0

/-- After any calls a cache that is switched on is the map of the versions that were made last; if
each call was over before the next one began, what it keeps is what was made last.  A cache that
is switched off keeps nothing. -/
theorem refines_lastMade (world : σ) (calls : List (Call σ ε α)) :
    Refines (after true world calls) ∧
      ((∀ c ∈ calls, c.IsAlone) → ∀ key version a,
        (after true world calls).cache.get? key version = some a ↔
          lastMade key (after true world calls).past = some (version, a)) ∧
      Forgets (after false world calls) := by
  refine ⟨?_, fun halone key version a => ?_, ?_⟩
  · have hkeeps := keepsVersions_after world calls
    exact {
      get := fun key version => hkeeps.isSome_get?_iff
      found := fun key version compile a h =>
        run_getOrCompile_of_some (served?_eq_some.mpr ⟨hkeeps.enabled, h⟩) compile
      missing := fun key version compile h =>
        compiles_of_none ((served?_of_enabled hkeeps.enabled key version).trans h) compile
      size := hkeeps.size }
  · rw [get?_eq_some, (keepsLast_after world halone).found]
  · have hoff := off_after world calls
    exact {
      get := hoff.get?_eq_none
      missing := fun key version compile =>
        compiles_of_none (served?_of_disabled hoff.disabled key version) compile
      size := congrArg List.length hoff.empty }

/-- The compile function that counts its invocations and makes their number. -/
def counted : CompileFunction Nat Unit Nat := .ofWorld fun n => (.ok (n + 1), n + 1)

def exampleKey : ArtifactKey := ⟨⟨0⟩, "200", none⟩

def exampleVersion (generation : Nat) : Version := ⟨generation, "digest"⟩

/-- A key has one version at a time: one that comes back is compiled anew. -/
def returning : List (Call Nat Unit Nat) :=
  [1, 1, 2, 1].map fun generation => .getOrCompile exampleKey (exampleVersion generation) counted

theorem refines_lastMade_returning :
    (after true 0 returning).world = 3 ∧
      (after true 0 returning).cache.get? exampleKey (exampleVersion 1) = some 3 ∧
      (after true 0 returning).cache.get? exampleKey (exampleVersion 2) = none ∧
      (after true 0 returning).cache.size = 1 ∧ (after false 0 returning).world = 4 ∧
      (after false 0 returning).cache.size = 0 := by
  have halone : ∀ c ∈ returning, c.IsAlone := by
    intro c hc
    obtain ⟨generation, -, rfl⟩ := List.mem_map.mp hc
    exact leavesCache_ofWorld _
  obtain ⟨hrefines, hlast, hforgets⟩ := refines_lastMade 0 returning
  have hold : lastMade exampleKey (after true 0 returning).past = some (exampleVersion 1, 3) := by
    decide
  refine ⟨by decide, (hlast halone _ _ _).mpr hold, ?_, hrefines.size.trans (by decide), by decide,
    hforgets.size⟩
  refine Option.not_isSome_iff_eq_none.mp fun hsome => ?_
  obtain ⟨a, ha⟩ := (hrefines.get _ _).mp hsome
  rw [hold] at ha
  cases ha

/-- A compile function that asks for what it is to make itself: the inner artifact stays, and the
second look finds it. -/
example :
    let calls := [.getOrCompile exampleKey (exampleVersion 1)
      (.asking exampleKey (exampleVersion 1) counted counted)]
    (after true 0 calls).world = 2 ∧
      (after true 0 calls).cache.get? exampleKey (exampleVersion 1) = some 1 := by
  decide

end Use

end ReplySchema.Cache
