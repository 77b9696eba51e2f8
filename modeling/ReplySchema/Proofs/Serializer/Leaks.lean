import Mathlib.Data.Fintype.EquivFin
import ReplySchema.Proofs.Serializer.Closed
import ReplySchema.Proofs.Serializer.WellFormed

/-! # What a plan of closed schemas lets through

A plan of closed schemas writes declared members only, except where it has no shape: at the
cuts that bundling makes, and where references go round.  There it writes the value as it is.
So it keeps to the declared names if writing never comes to such a place.  The converse holds
too: if some value brings the writing there, the value at that place can be exchanged for
another, and its members are written whatever their names.

Main statement: `keepsTo_declared_iff`.  `nodeSchema` is a schema of declared members that
refers to itself below a part of `allOf`; from the second level of a value on, its plan leaves
nothing out.
-/

set_option autoImplicit false

namespace ReplySchema.Serializer.Plan

open Schema (Key Source Target reference? referenceTo)

/-! ## §1  Closed plans -/

/-- Whether a shape is closed, its references having shapes unless `cut` holds. -/
abbrev EveryClosed (D : String → Prop) (cut : Prop) (targets : Table Key (Option Node))
    (node : Node) : Prop :=
  node.Every fun x => x.form.IsClosed D cut ∧
    ∀ key, x = .reference key → cut ∨ ∃ shape, Table.find? key targets = some (some shape)

/-- Whether all shapes of a plan are closed. -/
structure IsClosed (D : String → Prop) (cut : Prop) (plan : Plan) : Prop where
  root : EveryClosed D cut plan.targets plan.root
  target : ∀ key shape, Table.find? key plan.targets = some (some shape) →
    EveryClosed D cut plan.targets shape

/-- **A plan of closed schemas is closed**; it has no cuts if bundling cuts no part, and no
references without a shape if none go round. -/
theorem isClosed_of_build {set : Schema.Set} {base : Source} {root : Json} {rounding : Rounding}
    {plan : Plan} {cut : Prop} (hset : set.IsSound base) (hroot : root.IsSound)
    (hidentified : set.IsIdentified base) (hclosed : AllClosed set base root)
    (hcut : cut ∨ PartsUncut set base root)
    (hcircles : cut ∨ ∀ t : Target, Reaches composing set base root t.source t.schema →
      ¬ set.Circles t)
    (hbuild : build set base root rounding = .ok plan) :
    plan.IsClosed (Declared set base root) cut := by
  have hlooks := looksWithin_of_allClosed hset hroot hclosed
  obtain ⟨hmirrors, hshapes, -⟩ := mirrors_of_build (visits_met hlooks hidentified)
    (leads_of_reaches hlooks .root) hbuild
  have hlinked : ∀ s schema node, Reaches composing set base root s schema →
      Shapes set plan.targets s (.ofSchema set s schema) node →
      EveryClosed (Declared set base root) cut plan.targets node := by
    intro s schema node hreaches hshapes
    have hsketch := Sketch.everyClosed_ofSchema (Q := fun _ => True) hset hroot hclosed hcut
      (H := Reaches composing set base root s)
      ⟨fun _ h => h, fun _ h hnone _ _ hkey hm _ hd => h.inside hnone hkey hm hd⟩
      (fun _ _ _ _ => trivial) hreaches
    refine Shape.Links.every_of ?_ ?_ hsketch hshapes
    · intro x node hx hform hne
      refine ⟨hform ▸ hx.1, fun key heq => ?_⟩
      rw [heq] at hne
      exact absurd rfl hne
    · rintro reference node - ⟨r, t, -, ht, rfl, hcontains⟩
      refine .intro ⟨trivial, fun key heq => ?_⟩ fun _ h => by cases h
      cases heq
      obtain ⟨entry, hentry⟩ := Option.isSome_iff_exists.mp hcontains
      cases entry with
      | some shape => exact Or.inr ⟨shape, hentry⟩
      | none =>
          obtain ⟨u, hu, -, hnever | hround⟩ := hmirrors.unshaped _ hentry
          · cases hnever
          · exact hcircles.imp_right fun h => absurd hround (h u hu.1)
  refine ⟨hlinked _ _ _ .root hshapes, fun key shape hfind => ?_⟩
  obtain ⟨t, ht, -, hshape⟩ := hmirrors.shaped key shape hfind
  exact hlinked _ _ _ ht.1 hshape

/-! ## §2  Places without a shape -/

/-- Whether writing a value comes to a place where the plan has no shape and the value there is
written as it is. -/
inductive Meets (plan : Plan) : Node → Json → Prop where
  | any (v : Json) : Meets plan .any v
  | unshaped {key : Key} (h : ∀ shape, Table.find? key plan.targets ≠ some (some shape))
      (v : Json) : Meets plan (.reference key) v
  | reference {key : Key} {shape : Node} {v : Json}
      (hshape : Table.find? key plan.targets = some (some shape)) (h : Meets plan shape v) :
      Meets plan (.reference key) v
  | property {properties : List (Property Node)} {required : List String}
      {patterns : List (Pattern × Node)} {others : Others Node} {p : Property Node} {v x : Json}
      (hp : p ∈ properties) (hx : Table.find? p.name v.members = some x)
      (h : Meets plan p.shape x) : Meets plan (.object properties required patterns others) v
  | item {front : List Node} {rest s : Node} {items : List Json} {x : Json}
      (hx : (s, x) ∈ paired rest front items) (h : Meets plan s x) :
      Meets plan (.array front rest) (.array items)

variable {D : String → Prop} {plan : Plan}

/-- In a closed plan without cuts there is no such place. -/
theorem not_meets_of_isClosed (hplan : plan.IsClosed D False) {node : Node} {v : Json}
    (h : Meets plan node v) : ¬ EveryClosed D False plan.targets node := by
  induction h with
  | any v => exact fun hnode => hnode.self.1
  | unshaped h v =>
      intro hnode
      obtain ⟨shape, hshape⟩ := (hnode.self.2 _ rfl).resolve_left id
      exact h shape hshape
  | reference hshape _ ih => exact fun _ => ih (hplan.target _ _ hshape)
  | property hp _ _ ih =>
      exact fun hnode => ih (hnode.part
        (List.mem_append_left _ (List.mem_append_left _ (List.mem_map_of_mem hp))))
  | item hx _ ih => exact fun hnode => ih (hnode.part (mem_of_mem_paired hx).1)

/-! ## §3  What is written elsewhere -/

/-- Whether all names in a written value have a property. -/
abbrev OnlyNames (D : String → Prop) (w : Written) : Prop :=
  w.Every (fun _ => True) fun names => ∀ name ∈ names, D name

def member? (name : String) : Written → Option Written
  | .object members => Table.find? name members
  | _ => none

theorem OnlyNames.member {w x : Written} {name : String} (h : OnlyNames D w)
    (hx : member? name w = some x) : D name ∧ OnlyNames D x := by
  cases h with
  | object hnames hmembers =>
      have hmem := Table.find?_mem hx
      exact ⟨hnames name (List.mem_map_of_mem hmem), hmembers _ hmem⟩
  | _ => cases hx

theorem writeOthers_of_isClosed {cut : Prop} {write : Node → Json → Except SerializeError Written}
    {properties declared : List (Property Node)} {required : List String}
    {patterns : List (Pattern × Node)} {others : Others Node}
    (h : (Shape.object properties required patterns others : Node).form.IsClosed D cut) :
    ∀ members, writeOthers write declared patterns others members = .ok [] := by
  obtain ⟨-, hpatterns, hothers⟩ := h
  obtain rfl := List.map_eq_nil_iff.mp hpatterns
  cases others with
  | dropped => exact writeOthers_dropped
  | _ => cases hothers

/-- **A closed plan writes declared names only**, unless it comes to a place without a shape. -/
theorem onlyNames_write (hplan : plan.IsClosed D True) : ∀ (room : Nat) {node : Node} {v : Json}
    {w : Written}, EveryClosed D True plan.targets node → ¬ Meets plan node v →
    plan.write room node v = .ok w → OnlyNames D w := by
  intro room
  induction room with
  | zero =>
      intro node v w _ _ h
      rw [write] at h
      exact absurd h Result.throw_ne_ok
  | succ room ih =>
      intro node v w hnode hmeets h
      rw [write.eq_def] at h
      cases node with
      -- the three places where a value goes out as it is are those that `Meets` speaks of
      | any => exact absurd (.any v) hmeets
      | reference key =>
          simp only at h
          split at h
          · next shape hshape =>
              exact ih (hplan.target key shape hshape)
                (fun hmeet => hmeets (.reference hshape hmeet)) h
          · next hnone => exact absurd (.unshaped hnone v) hmeets
      | const expected => exact hnode.self.1.elim
      | null =>
          rw [Result.pure_eq_ok] at h
          exact h ▸ .null
      | boolean =>
          rw [Result.pure_eq_ok] at h
          exact h ▸ .bool _
      | integer =>
          simp only at h
          split at h
          · rw [Result.pure_eq_ok] at h
            exact h ▸ .number trivial
          · exact absurd h Result.throw_ne_ok
      | number =>
          simp only at h
          split at h
          · rw [Result.pure_eq_ok] at h
            exact h ▸ .number trivial
          · exact absurd h Result.throw_ne_ok
      | string =>
          rw [Result.pure_eq_ok] at h
          exact h ▸ .string _
      | object properties required patterns others =>
          have hform := hnode.self.1
          obtain ⟨-, declared, more, hdeclared, hmore, rfl⟩ := writeObject_eq_ok.mp h
          rw [writeOthers_of_isClosed hform] at hmore
          cases hmore
          rw [List.append_nil]
          refine .object (fun name hname => ?_) fun m hm => ?_
          · obtain ⟨p, hp, rfl⟩ := List.mem_map.mp ((sublist_writeDeclared hdeclared).subset hname)
            exact (hform.1 (p.name, p.default) (List.mem_map_of_mem hp)).1
          · obtain ⟨p, hp, x, -, hx, hwrite⟩ := mem_writeDeclared hdeclared m hm
            -- without defaults what is written of a member was in the value
            have hdefault : p.default = none :=
              (hform.1 (p.name, p.default) (List.mem_map_of_mem hp)).2
            have hx : Table.find? p.name v.members = some x :=
              hx.resolve_right fun hx => by rw [hdefault] at hx; cases hx
            have hshape := hnode.part
              (List.mem_append_left _ (List.mem_append_left _ (List.mem_map_of_mem hp)))
            exact ih hshape (fun hmeet => hmeets (.property hp hx hmeet)) hwrite
      | array front rest =>
          cases v with
          | array items =>
              obtain ⟨ws, hws, h⟩ := Result.bind_eq_ok.mp h
              rw [Result.pure_eq_ok] at h
              refine h ▸ .array fun w hw => ?_
              obtain ⟨s, x, hx, hwrite⟩ := mem_writeItems hws hw
              exact ih (hnode.part (mem_of_mem_paired hx).1)
                (fun hmeet => hmeets (.item hx hmeet)) hwrite
          | _ => exact absurd h Result.throw_ne_ok
      | union branches => exact hnode.self.1.elim
      | nullable inner => exact hnode.self.1.elim

/-! ## §4  Exchanging a value -/

section

variable {write : Node → Json → Except SerializeError Written}

theorem missing?_insert {properties : List (Property Node)} {required : List String}
    {members : List (String × Json)} {name : String} {x : Json}
    (hx : Table.find? name members = some x) (x' : Json) :
    missing? properties required (Table.insert name x' members) =
      missing? properties required members := by
  refine missing?_congr fun n _ => ?_
  rw [Table.contains_insert]
  by_cases hn : name = n
  · rw [← hn, decide_eq_true rfl, Bool.true_or, Table.contains, hx]
    rfl
  · rw [decide_eq_false hn, Bool.false_or]

theorem exists_written_of_find? {members : List (String × Json)} {p : Property Node} {x : Json}
    (hx : Table.find? p.name members = some x) : ∀ {properties : List (Property Node)}
      {ms : List (String × Written)}, writeDeclared write members properties = .ok ms →
      p ∈ properties → ∃ w, write p.shape x = .ok w
  | q :: rest, ms, h, hp => by
      rcases List.mem_cons.mp hp with rfl | hp
      · rw [writeDeclared, hx] at h
        obtain ⟨written, hwritten, -⟩ := Result.bind_eq_ok.mp h
        exact ⟨written, hwritten⟩
      · rcases writeDeclared_cons_eq_ok h with h | ⟨-, -, more, -, -, hmore, -⟩
        · exact exists_written_of_find? hx h hp
        · exact exists_written_of_find? hx hmore hp

theorem writeDeclared_insert {members : List (String × Json)} {name : String} {x : Json}
    {w : Written} : ∀ {properties : List (Property Node)} {ms : List (String × Written)},
      (∀ p ∈ properties, p.name = name → write p.shape x = .ok w) →
      writeDeclared write members properties = .ok ms →
      ∃ ms', writeDeclared write (Table.insert name x members) properties = .ok ms' ∧
        ((∃ p ∈ properties, p.name = name) → (name, w) ∈ ms')
  | [], _, _, _ => ⟨[], by rw [writeDeclared]; rfl, fun ⟨_, hp, _⟩ => (by cases hp)⟩
  | p :: rest, ms, hwrite, h => by
      have hrest : ∃ more, writeDeclared write members rest = .ok more := by
        rcases writeDeclared_cons_eq_ok h with h | ⟨-, -, more, -, -, hmore, -⟩
        · exact ⟨ms, h⟩
        · exact ⟨more, hmore⟩
      obtain ⟨more, hmore⟩ := hrest
      obtain ⟨more', hmore', hmem⟩ := writeDeclared_insert
        (fun q hq => hwrite q (List.mem_cons_of_mem _ hq)) hmore
      rw [writeDeclared, Table.find?_insert]
      by_cases hname : p.name = name
      · subst hname
        rw [if_pos rfl]
        refine ⟨(p.name, w) :: more', ?_, fun _ => List.mem_cons_self⟩
        change (do
          let written ← write p.shape x
          return (p.name, written) ::
            (← writeDeclared write (Table.insert p.name x members) rest)) = _
        rw [hwrite p List.mem_cons_self rfl, hmore']
        rfl
      · rw [if_neg fun heq => hname heq.symm]
        have hlater : (∃ q ∈ p :: rest, q.name = name) → (name, w) ∈ more' := by
          rintro ⟨q, hq, hqname⟩
          rcases List.mem_cons.mp hq with rfl | hq
          · exact absurd hqname hname
          · exact hmem ⟨q, hq, hqname⟩
        rw [writeDeclared] at h
        cases hfound : (Table.find? p.name members <|> p.default) with
        | none => exact ⟨more', hmore', hlater⟩
        | some v =>
            rw [hfound] at h
            obtain ⟨written, hwritten, -⟩ := Result.bind_eq_ok.mp h
            refine ⟨(p.name, written) :: more', ?_, fun hp => List.mem_cons_of_mem _ (hlater hp)⟩
            dsimp only
            rw [hwritten, hmore']
            rfl

theorem writeItems_exchange {rest s : Node} {x x' : Json} {w : Written}
    (hwrite : write s x' = .ok w) {items : List Json} : ∀ {front : List Node} {ws : List Written},
      (s, x) ∈ paired rest front items → writeItems write rest front items = .ok ws →
      ∃ items' ws', writeItems write rest front items' = .ok ws' ∧ w ∈ ws' ∧
        ∀ y ∈ items', y ∈ items ∨ y = x' := by
  simp only [writeItems_eq_mapM]
  induction items with
  | nil => exact fun hx _ => by cases hx
  | cons y ys ih =>
      intro front ws hx h
      rw [paired, List.mapM_cons] at h
      obtain ⟨first, hfirst, h⟩ := Result.bind_eq_ok.mp h
      obtain ⟨more, hmore, -⟩ := Result.bind_eq_ok.mp h
      rcases List.mem_cons.mp hx with heq | hx
      · cases heq
        refine ⟨x' :: ys, w :: more, ?_, List.mem_cons_self, fun z hz => ?_⟩
        · rw [paired, List.mapM_cons, hwrite, hmore]
          rfl
        · exact (List.mem_cons.mp hz).symm.imp_left (List.mem_cons_of_mem _)
      · obtain ⟨items', ws', hitems, hw, hmem⟩ := ih hx hmore
        refine ⟨y :: items', first :: ws', ?_, List.mem_cons_of_mem _ hw, fun z hz => ?_⟩
        · rw [paired, List.mapM_cons, hfirst, hitems]
          rfl
        · rcases List.mem_cons.mp hz with rfl | hz
          · exact Or.inl List.mem_cons_self
          · exact (hmem z hz).imp_left (List.mem_cons_of_mem _)

end

def single (name : String) : Json := .object [(name, .null)]

theorem not_onlyNames_single {name : String} (hname : ¬ D name) :
    ¬ OnlyNames D (.ofJson (single name)) := by
  intro h
  unfold single at h
  rw [Written.ofJson, Written.ofMembers_eq_map] at h
  cases h with
  | object hnames _ => exact hname (hnames name List.mem_cons_self)

/-- Whether some value is written at a node with a member of an undeclared name. -/
def LeaksAt (D : String → Prop) (plan : Plan) (room : Nat) (node : Node) : Prop :=
  ∃ v w, v.IsSound ∧ plan.write room node v = .ok w ∧ ¬ OnlyNames D w

theorem LeaksAt.of_ofJson {room : Nat} {node : Node} {name : String} (hname : ¬ D name)
    (h : plan.write room node (single name) = .ok (.ofJson (single name))) :
    LeaksAt D plan room node :=
  ⟨single name, _, Json.isSound_cons (fun h => by cases h) .null Json.isSound_nil, h,
    not_onlyNames_single hname⟩

/-- A member that is declared takes what leaks in the place of its value. -/
theorem LeaksAt.property {room : Nat} {properties : List (Property Node)}
    {required : List String} {patterns : List (Pattern × Node)} {others : Others Node}
    {p : Property Node} {v x : Json} {w : Written}
    (hclosed : (Shape.object properties required patterns others : Node).form.IsClosed D True)
    (hforms : (properties.map fun q => (q.name, q.default)).map (·.1) |>.Nodup) (hv : v.IsSound)
    (hp : p ∈ properties) (hx : Table.find? p.name v.members = some x)
    (h : plan.write (room + 1) (.object properties required patterns others) v = .ok w)
    (ih : ∀ {w}, plan.write room p.shape x = .ok w → LeaksAt D plan room p.shape) :
    LeaksAt D plan (room + 1) (.object properties required patterns others) := by
  rw [write] at h
  obtain ⟨hmissing, declared, more, hdeclared, -, -⟩ := writeObject_eq_ok.mp h
  -- What is written of the member is written in the shape of its only declaration.
  have hunique : ∀ q ∈ properties, q.name = p.name → q = p := by
    rw [List.map_map] at hforms
    exact fun q hq heq => List.inj_on_of_nodup_map hforms hq hp heq
  obtain ⟨wx, hwx⟩ := exists_written_of_find? hx hdeclared hp
  obtain ⟨x', w', hx', hw', hleak⟩ := ih hwx
  obtain ⟨ms, hms, hmem⟩ := writeDeclared_insert
    (fun q hq heq => by rw [hunique q hq heq]; exact hw') hdeclared
  refine ⟨.object (Table.insert p.name x' v.members), .object ms, ?_, ?_, ?_⟩
  · refine .object (Table.nodup_keys_insert _ _ hv.nodup_members) fun m hm => ?_
    rcases Table.mem_insert hm with rfl | hm
    · exact hx'
    · exact hv.of_mem_members hm
  · rw [write]
    refine writeObject_eq_ok.mpr ⟨(missing?_insert hx x').trans hmissing, ms, [], hms,
      writeOthers_of_isClosed hclosed _, ?_⟩
    rw [List.append_nil]
  · intro hevery
    cases hevery with
    | object _ hmembers => exact hleak (hmembers _ (hmem ⟨p, hp, rfl⟩))

/-- An item takes what leaks in its place. -/
theorem LeaksAt.item {room : Nat} {front : List Node} {rest s : Node} {items : List Json}
    {x : Json} {w : Written} (hv : (Json.array items).IsSound)
    (hx : (s, x) ∈ paired rest front items)
    (h : plan.write (room + 1) (.array front rest) (.array items) = .ok w)
    (ih : ∀ {w}, plan.write room s x = .ok w → LeaksAt D plan room s) :
    LeaksAt D plan (room + 1) (.array front rest) := by
  rw [write] at h
  obtain ⟨ws, hws, -⟩ := Result.bind_eq_ok.mp h
  rw [writeItems_eq_mapM] at hws
  obtain ⟨wx, hwx⟩ := Result.exists_of_mapM_eq_ok hws _ hx
  rw [← writeItems_eq_mapM] at hws
  obtain ⟨x', w', hx', hw', hleak⟩ := ih hwx
  obtain ⟨items', ws', hitems, hmem, hgiven⟩ := writeItems_exchange hw' hx hws
  refine ⟨.array items', .array ws', ?_, ?_, ?_⟩
  · refine .array fun y hy => ?_
    rcases hgiven y hy with hy | rfl
    · exact hv.item hy
    · exact hx'
  · rw [write, hitems]
    rfl
  · intro hevery
    cases hevery with
    | array hitems => exact hleak (hitems _ hmem)

/-- **If some value brings the writing to a place without a shape, another value is written there
with a member of any name.** -/
theorem exists_leak_of_meets (hplan : plan.IsClosed D True) (htidy : plan.IsTidy) {name : String}
    (hname : ¬ D name) {node : Node} {v : Json} (hmeets : Meets plan node v) :
    ∀ (room : Nat) {w : Written}, EveryClosed D True plan.targets node →
      EveryForm Shape.Form.IsTidy node → v.IsSound → plan.write room node v = .ok w →
      ∃ v' w', v'.IsSound ∧ plan.write room node v' = .ok w' ∧ ¬ OnlyNames D w' := by
  have hzero : ∀ {node v w}, plan.write 0 node v ≠ .ok w := fun h => by
    rw [write] at h
    exact Result.throw_ne_ok h
  induction hmeets with
  | any v =>
      intro room w _ _ _ h
      cases room with
      | zero => exact absurd h hzero
      | succ room => exact LeaksAt.of_ofJson hname rfl
  | @unshaped key hnone v =>
      intro room w _ _ _ h
      cases room with
      | zero => exact absurd h hzero
      | succ room =>
          refine LeaksAt.of_ofJson hname ?_
          rw [write]
          split
          · next shape hshape => exact absurd hshape (hnone shape)
          · rfl
  | @reference key shape v hshape _ ih =>
      intro room w _ _ hv h
      cases room with
      | zero => exact absurd h hzero
      | succ room =>
          simp only [write, hshape] at h ⊢
          exact ih room (hplan.target key shape hshape)
            (htidy.2 _ (Table.find?_mem hshape) shape rfl) hv h
  | @property properties required patterns others p v x hp hx _ ih =>
      intro room w hnode hforms hv h
      cases room with
      | zero => exact absurd h hzero
      | succ room =>
          have hpart : p.shape ∈ (Shape.object properties required patterns others : Node).parts :=
            List.mem_append_left _ (List.mem_append_left _ (List.mem_map_of_mem hp))
          exact LeaksAt.property hnode.self.1 hforms.self.1 hv hp hx h fun hw =>
            ih room (hnode.part hpart) (hforms.part hpart) (hv.find? hx) hw
  | @item front rest s items x hx _ ih =>
      intro room w hnode hforms hv h
      cases room with
      | zero => exact absurd h hzero
      | succ room =>
          obtain ⟨hpart, hitem⟩ := mem_of_mem_paired hx
          exact LeaksAt.item hv hx h fun hw =>
            ih room (hnode.part hpart) (hforms.part hpart) (hv.item hitem) hw

/-! ## §5  Undeclared names -/

/-- The documents declare finitely many names, so some name is not declared. -/
theorem exists_undeclared (set : Schema.Set) (base : Source) (root : Json) :
    ∃ name, ¬ Declared set base root name := by
  obtain ⟨given, hgiven⟩ := Json.exists_namesAmong_items (root :: (set.sources base).map Source.root)
  obtain ⟨name, hname⟩ := Infinite.exists_notMem_finset given.toFinset
  refine ⟨name, fun ⟨s, schema, hreaches, _, hmem⟩ => hname (List.mem_toFinset.mpr ?_)⟩
  have hschema : schema.NamesAmong given :=
    hreaches.every (fun s hs => hgiven _ (List.mem_cons_of_mem _ (List.mem_map_of_mem hs)))
      (hgiven root List.mem_cons_self)
  cases schema with
  | object members =>
      unfold declaredNames Json.get? at hmem
      cases hfind : Table.find? "properties" members with
      | none =>
          simp only [hfind] at hmem
          cases hmem
      | some value =>
          simp only [hfind, Option.getD_some] at hmem
          have hvalue := hschema.member (Table.find?_mem hfind)
          cases hvalue with
          | object hnames _ => exact hnames name hmem
          | _ => cases hmem
  | _ => cases hmem

/-! ## §6  Some closed schemas -/

def idSchema : Json := .object [("type", .string "integer")]

def recordOf (properties : List (String × Json)) : Json :=
  .object [("type", .string "object"), ("properties", .object properties)]

def composedOf (parts : List Json) : Json :=
  .object [("type", .string "object"), ("properties", .object [("id", idSchema)]),
    ("allOf", .array parts)]

theorem isSound_idSchema : idSchema.IsSound :=
  Json.isSound_cons (by decide) (.string _) Json.isSound_nil

theorem isSound_recordOf {name : String} {inner : Json} (h : inner.IsSound) :
    (recordOf [(name, inner)]).IsSound := by
  have hproperties := @Json.isSound_cons name _ _ (by simp [Table.keys]) h Json.isSound_nil
  exact Json.isSound_cons (by simp [Table.keys]) (.string _)
    (Json.isSound_cons (by simp [Table.keys]) hproperties Json.isSound_nil)

theorem isSound_composedOf {parts : List Json} (h : ∀ part ∈ parts, part.IsSound) :
    (composedOf parts).IsSound := by
  have hproperties := @Json.isSound_cons "id" _ _ (by decide) isSound_idSchema Json.isSound_nil
  exact Json.isSound_cons (by simp [Table.keys]) (.string _)
    (Json.isSound_cons (by simp [Table.keys]) hproperties
      (Json.isSound_cons (by simp [Table.keys]) (.array h) Json.isSound_nil))

theorem isClosed_idSchema : Serializer.IsClosed idSchema :=
  ⟨rfl, isStrict_of_keys (by decide), Or.inr ⟨"integer", by decide, rfl, fun h => absurd h (by decide)⟩⟩

theorem isClosed_referenceTo (reference : String) : Serializer.IsClosed (referenceTo reference) :=
  ⟨rfl, isStrict_of_keys (by simp [Table.keys, looseKeywords]), Or.inl ⟨reference, rfl⟩⟩

theorem isClosed_recordOf (properties : List (String × Json)) :
    Serializer.IsClosed (recordOf properties) :=
  ⟨rfl, isStrict_of_keys (by simp [Table.keys, looseKeywords]),
    Or.inr ⟨"object", by decide, rfl, fun h => absurd h (by decide)⟩⟩

theorem isClosed_composedOf (parts : List Json) : Serializer.IsClosed (composedOf parts) :=
  ⟨rfl, isStrict_of_keys (by simp [Table.keys, looseKeywords]),
    Or.inr ⟨"object", by decide, rfl, fun h => absurd h (by decide)⟩⟩

theorem not_circles_of_root {root : Json} (hleads : LeadsTo root "#" "" root)
    (hroot : reference? root = none) {t : Target} (hsource : t.source = .ofInline root)
    (ht : ∀ r, reference? t.schema = some r → r = "#") :
    ¬ (Schema.Set.ofStores [] 0).Circles t := by
  intro hcircles
  obtain ⟨u, hu, hcirclesNext⟩ := hcircles.next
  obtain ⟨w, hw, -⟩ := hcirclesNext.next
  obtain ⟨r, hr, hresolve⟩ := Schema.Set.next?_eq_some.mp hu
  obtain ⟨r', hr', -⟩ := Schema.Set.next?_eq_some.mp hw
  rw [ht r hr, hsource] at hresolve
  rw [(hleads.target hresolve).2, hroot] at hr'
  cases hr'

def nodeSchema : Json := composedOf [recordOf [("child", referenceTo "#")]]

/-- Three of them, one in the other, each with a member that is not declared. -/
def nodeValue : Json :=
  .object [("secret", .bool true), ("child", .object [("secret", .bool true),
    ("child", .object [("id", .int 3), ("secret", .bool true)])])]

theorem mem_of_reaches_node {s : Source} {schema : Json}
    (h : Reaches composing (.ofStores [] 0) (.ofInline nodeSchema) nodeSchema s schema) :
    s = .ofInline nodeSchema ∧
      schema ∈ [nodeSchema, idSchema, recordOf [("child", referenceTo "#")], referenceTo "#"] := by
  refine mem_of_reaches_ofInline (by simp) (fun c hc hnone d hd => ?_) (fun c hc r hr => ?_) h
  · have hnode : Sketch.inside nodeSchema ++ Sketch.partsOf nodeSchema.members =
      [idSchema, recordOf [("child", referenceTo "#")]] := rfl
    have hrecord : Sketch.inside (recordOf [("child", referenceTo "#")]) ++
      Sketch.partsOf (recordOf [("child", referenceTo "#")]).members = [referenceTo "#"] := rfl
    simp only [List.mem_cons, List.not_mem_nil, or_false] at hc
    rcases hc with rfl | rfl | rfl | rfl
    · rw [hnode] at hd
      exact List.mem_cons_of_mem _ ((List.prefix_append _ [referenceTo "#"]).subset hd)
    · cases hd
    · rw [hrecord] at hd
      exact List.mem_cons_of_mem _ (List.mem_cons_of_mem _ (List.mem_cons_of_mem _ hd))
    · cases hnone
  · simp only [List.mem_cons, List.not_mem_nil, or_false] at hc
    rcases hc with rfl | rfl | rfl | rfl <;> cases hr
    exact ⟨"", nodeSchema, by simp, rfl, by decide +kernel⟩

def selfSchema : Json := composedOf [referenceTo "#", recordOf [("tag", idSchema)]]

def selfValue : Json :=
  .object [("secret", .bool true), ("tag", .int 2), ("id", .string "7")]

theorem mem_of_reaches_self {s : Source} {schema : Json}
    (h : Reaches composing (.ofStores [] 0) (.ofInline selfSchema) selfSchema s schema) :
    s = .ofInline selfSchema ∧
      schema ∈ [selfSchema, idSchema, referenceTo "#", recordOf [("tag", idSchema)]] := by
  refine mem_of_reaches_ofInline (by simp) (fun c hc hnone d hd => ?_) (fun c hc r hr => ?_) h
  · have hself : Sketch.inside selfSchema ++ Sketch.partsOf selfSchema.members =
      [idSchema, referenceTo "#", recordOf [("tag", idSchema)]] := rfl
    have hrecord : Sketch.inside (recordOf [("tag", idSchema)]) ++
      Sketch.partsOf (recordOf [("tag", idSchema)]).members = [idSchema] := rfl
    simp only [List.mem_cons, List.not_mem_nil, or_false] at hc
    rcases hc with rfl | rfl | rfl | rfl
    · rw [hself] at hd
      exact List.mem_cons_of_mem _ hd
    · cases hd
    · cases hnone
    · rw [hrecord] at hd
      rw [List.mem_singleton.mp hd]
      simp
  · simp only [List.mem_cons, List.not_mem_nil, or_false] at hc
    rcases hc with rfl | rfl | rfl | rfl <;> cases hr
    exact ⟨"", selfSchema, by simp, rfl, by decide +kernel⟩

theorem isUncut_of_properties {members : List (String × Json)} (entries : List (String × Json))
    (hmembers : ∀ m ∈ members, composing m.1 → m = ("properties", .object entries))
    (hentries : ∀ e ∈ entries, e.2 ≠ Schema.permissive ∧ IsUncut e.2)
    (hparts : ∀ c ∈ Sketch.partsOf members, IsUncut c) : IsUncut (.object members) := by
  have hinside : ∀ key value, composing key → (key, value) ∈ members →
      ∀ c ∈ Sketch.insideKeyword key value, ∃ e ∈ entries, e.2 = c := by
    intro key value hkey hm c hc
    cases hmembers _ hm hkey
    exact List.mem_map.mp hc
  constructor
  · intro key value hkey hm hcut
    obtain ⟨e, he, heq⟩ := hinside key value hkey hm _ hcut
    exact (hentries e he).1 heq
  · intro key value hkey hm c hc
    obtain ⟨e, he, rfl⟩ := hinside key value hkey hm c hc
    exact (hentries e he).2
  · exact hparts

theorem isUncut_idSchema : IsUncut idSchema :=
  isUncut_of_properties [] (by simp [composing]) (fun _ h => by cases h)
    fun _ h => by cases h

theorem isUncut_tag : IsUncut (recordOf [("tag", idSchema)]) := by
  refine isUncut_of_properties [("tag", idSchema)] (by simp [composing]) ?_
    fun _ h => by cases h
  intro e he
  rw [List.mem_singleton.mp he]
  exact ⟨fun h => (by cases h), isUncut_idSchema⟩

/-- Nothing but the second turn of a record that refers to itself as a part is cut. -/
theorem partsUncut_self : PartsUncut (.ofStores [] 0) (.ofInline selfSchema) selfSchema := by
  have hself : (Schema.Set.ofStores [] 0).bundleSchema (.ofInline selfSchema) (referenceTo "#") =
    .ok (composedOf [Schema.permissive, recordOf [("tag", idSchema)]]) := rfl
  have htag : (Schema.Set.ofStores [] 0).bundleSchema (.ofInline selfSchema)
    (recordOf [("tag", idSchema)]) = .ok (recordOf [("tag", idSchema)]) := rfl
  intro s schema h _ part hpart j hj
  obtain ⟨rfl, hmem⟩ := mem_of_reaches_self h
  simp only [List.mem_cons, List.not_mem_nil, or_false] at hmem
  rcases hmem with rfl | rfl | rfl | rfl
  · have hparts : Sketch.partsOf selfSchema.members = [referenceTo "#", recordOf [("tag", idSchema)]] :=
      rfl
    rw [hparts] at hpart
    simp only [List.mem_cons, List.not_mem_nil, or_false] at hpart
    rcases hpart with rfl | rfl
    · rw [hself] at hj
      cases hj
      refine isUncut_of_properties [("id", idSchema)] (by simp [composing]) ?_ ?_
      · intro e he
        rw [List.mem_singleton.mp he]
        exact ⟨fun h => (by cases h), isUncut_idSchema⟩
      · intro c hc
        have hc : c ∈ [Schema.permissive, recordOf [("tag", idSchema)]] := hc
        simp only [List.mem_cons, List.not_mem_nil, or_false] at hc
        rcases hc with rfl | rfl
        · exact isUncut_of_properties [] (fun _ h => by cases h)
            (fun _ h => by cases h) fun _ h => by cases h
        · exact isUncut_tag
    · rw [htag] at hj
      cases hj
      exact isUncut_tag
  · cases hpart
  · cases hpart
  · cases hpart

/-! ## §7  The main statement -/

/-- Whether all members that a plan writes of values have names with a property. -/
def KeepsTo (D : String → Prop) (plan : Plan) : Prop :=
  ∀ v w, v.IsSound → plan.written v = .ok w → OnlyNames D w

/-- **A plan of closed schemas keeps to the declared names exactly if no value brings it to a place
without a shape.**  The schemas are those of any stores, seen from one of their documents or from a
schema on a route.  There is no such place if bundling cuts no part of `allOf` below a property or
below items, and no references go round. -/
theorem keepsTo_declared_iff {stores : List Schema.Store} {generation : Nat} {base : Source}
    {root : Json} {rounding : Rounding} {plan : Plan}
    (hbase : base.origin = .inline ∨ base ∈ Schema.Set.sourcesOf stores)
    (hset : (Schema.Set.ofStores stores generation).IsSound base) (hroot : root.IsSound)
    (hclosed : AllClosed (Schema.Set.ofStores stores generation) base root)
    (hbuild : build (Schema.Set.ofStores stores generation) base root rounding = .ok plan) :
    (plan.KeepsTo (Declared (Schema.Set.ofStores stores generation) base root) ↔
      ∀ v w, v.IsSound → plan.written v = .ok w → ¬ plan.Meets plan.root v) ∧
    (PartsUncut (Schema.Set.ofStores stores generation) base root →
      (∀ t : Target, Reaches composing (Schema.Set.ofStores stores generation) base root
        t.source t.schema → ¬ (Schema.Set.ofStores stores generation).Circles t) →
      plan.KeepsTo (Declared (Schema.Set.ofStores stores generation) base root)) := by
  have hidentified := @Schema.Set.isIdentified_ofStores stores generation base hbase
  have htidy := isTidy_of_build hset hroot hbuild
  have hplan := isClosed_of_build hset hroot hidentified hclosed (Or.inl trivial) (Or.inl trivial)
    hbuild
  have hkeeps : (∀ v w, v.IsSound → plan.written v = .ok w → ¬ plan.Meets plan.root v) →
      plan.KeepsTo (Declared (Schema.Set.ofStores stores generation) base root) :=
    fun h v w hv hw => onlyNames_write hplan _ hplan.root (h v w hv hw) hw
  refine ⟨⟨fun h v w hv hw hmeets => ?_, hkeeps⟩, fun huncut hcircles => hkeeps ?_⟩
  · obtain ⟨name, hname⟩ := exists_undeclared (Schema.Set.ofStores stores generation) base root
    obtain ⟨v', w', hv', hw', hleak⟩ := exists_leak_of_meets hplan htidy hname hmeets _ hplan.root
      htidy.1 hv hw
    exact hleak (h v' w' hv' hw')
  · intro v w _ _ hmeets
    have hshaped := isClosed_of_build hset hroot hidentified hclosed
      (Or.inr huncut : False ∨ PartsUncut _ base root) (Or.inr hcircles) hbuild
    exact not_meets_of_isClosed hshaped hmeets hshaped.root

theorem keepsTo_declared_iff_self : ∃ plan,
    build (.ofStores [] 0) (.ofInline selfSchema) selfSchema .trunc = .ok plan ∧
      plan.KeepsTo (Declared (.ofStores [] 0) (.ofInline selfSchema) selfSchema) ∧
      plan.serialize selfValue = .ok "\x7b\"id\":7,\"tag\":2\x7d" := by
  have hrun : ((build (.ofStores [] 0) (.ofInline selfSchema) selfSchema .trunc).toOption.bind
      fun plan => (plan.serialize selfValue).toOption) = some "\x7b\"id\":7,\"tag\":2\x7d" := by
    decide +kernel
  obtain ⟨plan, hplan, htext⟩ := Option.bind_eq_some_iff.mp hrun
  rw [Result.toOption_eq_some] at hplan htext
  have hsound : selfSchema.IsSound := by
    refine isSound_composedOf fun part hpart => ?_
    simp only [List.mem_cons, List.not_mem_nil, or_false] at hpart
    rcases hpart with rfl | rfl
    · exact isSound_referenceTo _
    · exact isSound_recordOf isSound_idSchema
  have hset : (Schema.Set.ofStores [] 0).IsSound (.ofInline selfSchema) := by
    intro s hs
    rw [List.mem_singleton.mp hs]
    exact hsound
  have hclosed : AllClosed (.ofStores [] 0) (.ofInline selfSchema) selfSchema := by
    intro s schema h
    have hmem := (mem_of_reaches_self h).2
    simp only [List.mem_cons, List.not_mem_nil, or_false] at hmem
    rcases hmem with rfl | rfl | rfl | rfl
    · exact isClosed_composedOf _
    · exact isClosed_idSchema
    · exact isClosed_referenceTo _
    · exact isClosed_recordOf _
  have hcircles : ∀ t : Target, Reaches composing (.ofStores [] 0) (.ofInline selfSchema) selfSchema
      t.source t.schema → ¬ (Schema.Set.ofStores [] 0).Circles t := by
    intro t ht
    obtain ⟨hsource, hmem⟩ := mem_of_reaches_self ht
    refine not_circles_of_root ⟨rfl, by decide +kernel⟩ rfl hsource fun r hr => ?_
    simp only [List.mem_cons, List.not_mem_nil, or_false] at hmem
    rcases hmem with heq | heq | heq | heq <;> rw [heq] at hr <;> cases hr
    rfl
  exact ⟨plan, hplan, (keepsTo_declared_iff (Or.inl rfl) hset hsound hclosed hplan).2
    partsUncut_self hcircles, htext⟩

/-- **A closed schema that refers to itself below a part lets undeclared members through**: its plan
leaves them out of a record and of the child, but not of the child of the child. -/
theorem not_keepsTo_declared_node :
    (Schema.Set.ofStores [] 0).IsSound (.ofInline nodeSchema) ∧ nodeSchema.IsSound ∧
      AllClosed (.ofStores [] 0) (.ofInline nodeSchema) nodeSchema ∧
      (∀ t : Target, Reaches composing (.ofStores [] 0) (.ofInline nodeSchema) nodeSchema
        t.source t.schema → ¬ (Schema.Set.ofStores [] 0).Circles t) ∧
      ∃ plan, build (.ofStores [] 0) (.ofInline nodeSchema) nodeSchema .trunc = .ok plan ∧
        ¬ plan.KeepsTo (Declared (.ofStores [] 0) (.ofInline nodeSchema) nodeSchema) := by
  have hsound : nodeSchema.IsSound := isSound_composedOf fun part hpart =>
    List.mem_singleton.mp hpart ▸ isSound_recordOf (isSound_referenceTo _)
  refine ⟨fun s hs => List.mem_singleton.mp hs ▸ hsound, hsound, ?_, ?_, ?_⟩
  · intro s schema h
    have hmem := (mem_of_reaches_node h).2
    simp only [List.mem_cons, List.not_mem_nil, or_false] at hmem
    rcases hmem with rfl | rfl | rfl | rfl
    · exact isClosed_composedOf _
    · exact isClosed_idSchema
    · exact isClosed_recordOf _
    · exact isClosed_referenceTo _
  · intro t ht
    obtain ⟨hsource, hmem⟩ := mem_of_reaches_node ht
    refine not_circles_of_root ⟨rfl, by decide +kernel⟩ rfl hsource fun r hr => ?_
    simp only [List.mem_cons, List.not_mem_nil, or_false] at hmem
    rcases hmem with heq | heq | heq | heq <;> rw [heq] at hr <;> cases hr
    rfl
  -- two children down the member stands that no schema declares
  · have hrun : ((build (.ofStores [] 0) (.ofInline nodeSchema) nodeSchema .trunc).toOption.bind
        fun plan => (plan.written nodeValue).toOption.bind fun w => (member? "child" w).bind
        fun child => (member? "child" child).bind (member? "secret")).isSome = true := by
      decide +kernel
    obtain ⟨leaf, hrun⟩ := Option.isSome_iff_exists.mp hrun
    obtain ⟨plan, hplan, hrun⟩ := Option.bind_eq_some_iff.mp hrun
    obtain ⟨w, hw, hrun⟩ := Option.bind_eq_some_iff.mp hrun
    obtain ⟨child, hchild, hrun⟩ := Option.bind_eq_some_iff.mp hrun
    obtain ⟨inner, hinner, hsecret⟩ := Option.bind_eq_some_iff.mp hrun
    rw [Result.toOption_eq_some] at hplan hw
    refine ⟨plan, hplan, fun hkeeps => ?_⟩
    have hobject := @Json.isSound_cons
    have hvalue : nodeValue.IsSound := by
      unfold nodeValue
      refine hobject (by decide) (.bool _) (hobject (by decide) ?_ Json.isSound_nil)
      refine hobject (by decide) (.bool _) (hobject (by decide) ?_ Json.isSound_nil)
      exact hobject (by decide) (.number trivial) (hobject (by decide) (.bool _) Json.isSound_nil)
    obtain ⟨-, hchildNames⟩ := (hkeeps nodeValue w hvalue hw).member hchild
    obtain ⟨-, hinnerNames⟩ := hchildNames.member hinner
    obtain ⟨⟨s, schema, hreaches, -, hname⟩, -⟩ := hinnerNames.member hsecret
    have hmem := (mem_of_reaches_node hreaches).2
    simp only [List.mem_cons, List.not_mem_nil, or_false] at hmem
    revert hname
    rcases hmem with rfl | rfl | rfl | rfl <;> decide

end ReplySchema.Serializer.Plan
