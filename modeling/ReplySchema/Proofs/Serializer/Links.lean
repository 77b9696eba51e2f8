import ReplySchema.Serializer.Shape

/-! # Shapes part by part, and how a sketch is finished

`Shape.Every P` says that a property holds of a shape and of every shape inside it.  Most
properties look at the outermost form only (`Shape.form`), which knows nothing of references
or of what stands inside.

`Links` relates a sketch to the finished shape: the same all over, except that a reference
has become what `R` says and a test what `test` says.  So the forms agree, and a property of
forms passes from a sketch to what it is finished to (`Links.every`).

The last section shows that linking does this.  A step that changes a state *ensures* a
postcondition under an invariant, and the state only grows, so that what was said of an
earlier part stays true while the later ones are linked (`ensures_link`).
-/

set_option autoImplicit false

namespace ReplySchema.Serializer

def Others.shapes {σ : Type} : Others σ → List σ
  | .shaped shape => [shape]
  | _ => []

/-- What happens to other members, without the shape. -/
def Others.kind {σ : Type} : Others σ → Others Unit
  | .dropped => .dropped
  | .plain => .plain
  | .shaped _ => .shaped ()

namespace Shape

/-! ## §1  Parts and forms -/

/-- The outermost form of a shape: all that it says without its parts. -/
inductive Form where
  | any
  | reference
  | const (value : Json)
  | null
  | boolean
  | integer
  | number
  | string
  | object (properties : List (String × Option Json)) (required : List String)
      (patterns : List Pattern) (others : Others Unit)
  | array
  | union
  | nullable

section

variable {ρ τ : Type}

def form : Shape ρ τ → Form
  | any => .any
  | reference _ => .reference
  | const v => .const v
  | null => .null
  | boolean => .boolean
  | integer => .integer
  | number => .number
  | string => .string
  | object properties required patterns others =>
      .object (properties.map fun p => (p.name, p.default)) required (patterns.map (·.1))
        others.kind
  | array _ _ => .array
  | union _ => .union
  | nullable _ => .nullable

/-- The shapes that stand directly inside a shape. -/
def parts : Shape ρ τ → List (Shape ρ τ)
  | object properties _ patterns others =>
      properties.map (·.shape) ++ patterns.map (·.2) ++ others.shapes
  | array front rest => front ++ [rest]
  | union branches => branches.map (·.shape)
  | nullable inner => [inner]
  | _ => []

theorem sizeOf_lt_of_mem_parts {s t : Shape ρ τ} (h : t ∈ s.parts) : sizeOf t < sizeOf s := by
  cases s with
  | object properties required patterns others =>
      rw [object.sizeOf_spec]
      rcases List.mem_append.mp h with h | h
      · rcases List.mem_append.mp h with h | h
        · obtain ⟨⟨name, default, shape⟩, hp, rfl⟩ := List.mem_map.mp h
          have hlt := List.sizeOf_lt_of_mem hp
          rw [Property.mk.sizeOf_spec] at hlt
          dsimp only
          omega
        · obtain ⟨⟨pattern, shape⟩, hp, rfl⟩ := List.mem_map.mp h
          have hlt := List.sizeOf_lt_of_mem hp
          rw [Prod.mk.sizeOf_spec] at hlt
          dsimp only
          omega
      · cases others with
        | shaped shape =>
            rw [List.mem_singleton.mp h, Others.shaped.sizeOf_spec]
            omega
        | _ => cases h
  | array front rest =>
      rw [array.sizeOf_spec]
      rcases List.mem_append.mp h with h | h
      · have hlt := List.sizeOf_lt_of_mem h
        omega
      · rw [List.mem_singleton.mp h]
        omega
  | union branches =>
      obtain ⟨⟨test, shape⟩, hb, rfl⟩ := List.mem_map.mp h
      have hlt := List.sizeOf_lt_of_mem hb
      rw [Branch.mk.sizeOf_spec] at hlt
      rw [union.sizeOf_spec]
      dsimp only
      omega
  | nullable inner =>
      rw [List.mem_singleton.mp h, nullable.sizeOf_spec]
      omega
  | _ => cases h

/-- Whether a property holds of a shape and of all shapes inside it. -/
inductive Every (P : Shape ρ τ → Prop) : Shape ρ τ → Prop where
  | intro {s : Shape ρ τ} (h : P s) (hparts : ∀ t ∈ s.parts, Every P t) : Every P s

variable {P : Shape ρ τ → Prop} {s : Shape ρ τ}

theorem Every.self (h : Every P s) : P s := by
  cases h with
  | intro h _ => exact h

theorem Every.part (h : Every P s) {t : Shape ρ τ} (ht : t ∈ s.parts) : Every P t := by
  cases h with
  | intro _ hparts => exact hparts t ht

theorem Every.mono {Q : Shape ρ τ → Prop} (h : Every P s) (himp : ∀ s, P s → Q s) :
    Every Q s := by
  induction h with
  | intro h _ ih => exact .intro (himp _ h) ih

theorem Every.of_forall (h : ∀ s, P s) (s : Shape ρ τ) : Every P s := by
  induction hsize : sizeOf s using Nat.strongRecOn generalizing s with
  | _ n ih =>
      subst hsize
      exact .intro (h s) fun t ht => ih (sizeOf t) (sizeOf_lt_of_mem_parts ht) t rfl

theorem Every.and {Q : Shape ρ τ → Prop} (h : Every P s) :
    Every Q s → Every (fun s => P s ∧ Q s) s := by
  induction h with
  | intro h _ ih =>
      intro hQ
      exact .intro ⟨h, hQ.self⟩ fun t ht => ih t ht (hQ.part ht)

end

/-! ## §2  Sketches and finished shapes -/

section

variable {ρ τ ρ' τ' : Type} (R : ρ → Shape ρ' τ' → Prop) (test : τ → Option τ')

mutual
/-- Whether a shape is the sketch with its references and tests replaced. -/
def Links : Shape ρ τ → Shape ρ' τ' → Prop
  | any, s => s = any
  | reference r, s => R r s
  | const v, s => s = const v
  | null, s => s = null
  | boolean, s => s = boolean
  | integer, s => s = integer
  | number, s => s = number
  | string, s => s = string
  | object properties required patterns others, s =>
      ∃ properties' patterns' others', s = object properties' required patterns' others' ∧
        LinksProperties properties properties' ∧ LinksPatterns patterns patterns' ∧
        LinksOthers others others'
  | array front rest, s =>
      ∃ front' rest', s = array front' rest' ∧ LinksList front front' ∧ Links rest rest'
  | union branches, s => ∃ branches', s = union branches' ∧ LinksBranches branches branches'
  | nullable inner, s => ∃ inner', s = nullable inner' ∧ Links inner inner'

/-- The same for the shapes of declared members. -/
def LinksProperties : List (Property (Shape ρ τ)) → List (Property (Shape ρ' τ')) → Prop
  | [], ps => ps = []
  | ⟨name, default, shape⟩ :: more, ps =>
      ∃ shape' more', ps = ⟨name, default, shape'⟩ :: more' ∧ Links shape shape' ∧
        LinksProperties more more'

def LinksPatterns : List (Pattern × Shape ρ τ) → List (Pattern × Shape ρ' τ') → Prop
  | [], ps => ps = []
  | (pattern, shape) :: more, ps =>
      ∃ shape' more', ps = (pattern, shape') :: more' ∧ Links shape shape' ∧
        LinksPatterns more more'

def LinksOthers : Others (Shape ρ τ) → Others (Shape ρ' τ') → Prop
  | .dropped, o => o = .dropped
  | .plain, o => o = .plain
  | .shaped shape, o => ∃ shape', o = .shaped shape' ∧ Links shape shape'

def LinksList : List (Shape ρ τ) → List (Shape ρ' τ') → Prop
  | [], ss => ss = []
  | shape :: more, ss =>
      ∃ shape' more', ss = shape' :: more' ∧ Links shape shape' ∧ LinksList more more'

def LinksBranches :
    List (Branch τ (Shape ρ τ)) → List (Branch τ' (Shape ρ' τ')) → Prop
  | [], bs => bs = []
  | ⟨given, shape⟩ :: more, bs =>
      ∃ shape' more', bs = ⟨given.bind test, shape'⟩ :: more' ∧ Links shape shape' ∧
        LinksBranches more more'
end

variable {R test} {R' : ρ → Shape ρ' τ' → Prop}

mutual
theorem Links.mono (himp : ∀ r s, R r s → R' r s) : ∀ (s : Shape ρ τ) {s' : Shape ρ' τ'},
    Links R test s s' → Links R' test s s'
  | any, _, h => h
  | reference r, _, h => himp r _ h
  | const _, _, h => h
  | null, _, h => h
  | boolean, _, h => h
  | integer, _, h => h
  | number, _, h => h
  | string, _, h => h
  | object properties required patterns others, _, h => by
      obtain ⟨properties', patterns', others', heq, hproperties, hpatterns, hothers⟩ := h
      exact ⟨properties', patterns', others', heq, LinksProperties.mono himp properties hproperties,
        LinksPatterns.mono himp patterns hpatterns, LinksOthers.mono himp others hothers⟩
  | array front rest, _, h => by
      obtain ⟨front', rest', heq, hfront, hrest⟩ := h
      exact ⟨front', rest', heq, LinksList.mono himp front hfront, Links.mono himp rest hrest⟩
  | union branches, _, h => by
      obtain ⟨branches', heq, hbranches⟩ := h
      exact ⟨branches', heq, LinksBranches.mono himp branches hbranches⟩
  | nullable inner, _, h => by
      obtain ⟨inner', heq, hinner⟩ := h
      exact ⟨inner', heq, Links.mono himp inner hinner⟩

theorem LinksProperties.mono (himp : ∀ r s, R r s → R' r s) : ∀ (ps : List (Property (Shape ρ τ)))
    {ps' : List (Property (Shape ρ' τ'))}, LinksProperties R test ps ps' →
    LinksProperties R' test ps ps'
  | [], _, h => h
  | ⟨_, _, shape⟩ :: more, _, h => by
      obtain ⟨shape', more', heq, hshape, hmore⟩ := h
      exact ⟨shape', more', heq, Links.mono himp shape hshape, LinksProperties.mono himp more hmore⟩

theorem LinksPatterns.mono (himp : ∀ r s, R r s → R' r s) : ∀ (ps : List (Pattern × Shape ρ τ))
    {ps' : List (Pattern × Shape ρ' τ')}, LinksPatterns R test ps ps' →
    LinksPatterns R' test ps ps'
  | [], _, h => h
  | (_, shape) :: more, _, h => by
      obtain ⟨shape', more', heq, hshape, hmore⟩ := h
      exact ⟨shape', more', heq, Links.mono himp shape hshape, LinksPatterns.mono himp more hmore⟩

theorem LinksOthers.mono (himp : ∀ r s, R r s → R' r s) : ∀ (o : Others (Shape ρ τ))
    {o' : Others (Shape ρ' τ')}, LinksOthers R test o o' → LinksOthers R' test o o'
  | .dropped, _, h => h
  | .plain, _, h => h
  | .shaped shape, _, h => by
      obtain ⟨shape', heq, hshape⟩ := h
      exact ⟨shape', heq, Links.mono himp shape hshape⟩

theorem LinksList.mono (himp : ∀ r s, R r s → R' r s) : ∀ (ss : List (Shape ρ τ))
    {ss' : List (Shape ρ' τ')}, LinksList R test ss ss' → LinksList R' test ss ss'
  | [], _, h => h
  | shape :: more, _, h => by
      obtain ⟨shape', more', heq, hshape, hmore⟩ := h
      exact ⟨shape', more', heq, Links.mono himp shape hshape, LinksList.mono himp more hmore⟩

theorem LinksBranches.mono (himp : ∀ r s, R r s → R' r s) : ∀ (bs : List (Branch τ (Shape ρ τ)))
    {bs' : List (Branch τ' (Shape ρ' τ'))}, LinksBranches R test bs bs' →
    LinksBranches R' test bs bs'
  | [], _, h => h
  | ⟨_, shape⟩ :: more, _, h => by
      obtain ⟨shape', more', heq, hshape, hmore⟩ := h
      exact ⟨shape', more', heq, Links.mono himp shape hshape, LinksBranches.mono himp more hmore⟩
end

/-- Declared members keep their names and defaults, and each comes from a sketched one. -/
theorem LinksProperties.parts : ∀ {ps : List (Property (Shape ρ τ))}
    {ps' : List (Property (Shape ρ' τ'))}, LinksProperties R test ps ps' →
    (ps'.map fun p => (p.name, p.default)) = (ps.map fun p => (p.name, p.default)) ∧
      ∀ p' ∈ ps', ∃ p ∈ ps, (p.name = p'.name ∧ p.default = p'.default) ∧
        Links R test p.shape p'.shape
  | [], _, h => by
      cases h
      exact ⟨rfl, fun _ h => by cases h⟩
  | ⟨name, default, shape⟩ :: more, _, h => by
      obtain ⟨shape', more', rfl, hshape, hmore⟩ := h
      obtain ⟨hforms, hparts⟩ := LinksProperties.parts hmore
      refine ⟨congrArg ((name, default) :: ·) hforms, fun p' hp' => ?_⟩
      rcases List.mem_cons.mp hp' with rfl | hp'
      · exact ⟨_, List.mem_cons_self, ⟨rfl, rfl⟩, hshape⟩
      · obtain ⟨p, hp, hlinks⟩ := hparts p' hp'
        exact ⟨p, List.mem_cons_of_mem _ hp, hlinks⟩

theorem LinksPatterns.parts : ∀ {ps : List (Pattern × Shape ρ τ)}
    {ps' : List (Pattern × Shape ρ' τ')}, LinksPatterns R test ps ps' →
    ps'.map (·.1) = ps.map (·.1) ∧ ∀ p' ∈ ps', ∃ p ∈ ps, Links R test p.2 p'.2
  | [], _, h => by
      cases h
      exact ⟨rfl, fun _ h => by cases h⟩
  | (pattern, shape) :: more, _, h => by
      obtain ⟨shape', more', rfl, hshape, hmore⟩ := h
      obtain ⟨hforms, hparts⟩ := LinksPatterns.parts hmore
      refine ⟨congrArg (pattern :: ·) hforms, fun p' hp' => ?_⟩
      rcases List.mem_cons.mp hp' with rfl | hp'
      · exact ⟨_, List.mem_cons_self, hshape⟩
      · obtain ⟨p, hp, hlinks⟩ := hparts p' hp'
        exact ⟨p, List.mem_cons_of_mem _ hp, hlinks⟩

theorem LinksPatterns.find? (holds : Pattern → Bool) : ∀ {ps : List (Pattern × Shape ρ τ)}
    {ps' : List (Pattern × Shape ρ' τ')}, LinksPatterns R test ps ps' →
    Option.Rel (fun p p' => Links R test p.2 p'.2) (ps.find? fun p => holds p.1)
      (ps'.find? fun p => holds p.1)
  | [], _, h => by
      cases h
      exact .none
  | (pattern, shape) :: more, _, h => by
      obtain ⟨shape', more', rfl, hshape, hmore⟩ := h
      rw [List.find?_cons, List.find?_cons]
      cases holds pattern with
      | true => exact .some hshape
      | false => exact LinksPatterns.find? holds hmore

theorem LinksList.parts : ∀ {ss : List (Shape ρ τ)} {ss' : List (Shape ρ' τ')},
    LinksList R test ss ss' → ∀ s' ∈ ss', ∃ s ∈ ss, Links R test s s'
  | [], _, h => by
      cases h
      exact fun _ h => by cases h
  | shape :: more, _, h => by
      obtain ⟨shape', more', rfl, hshape, hmore⟩ := h
      intro s' hs'
      rcases List.mem_cons.mp hs' with rfl | hs'
      · exact ⟨shape, List.mem_cons_self, hshape⟩
      · obtain ⟨s, hs, hlinks⟩ := LinksList.parts hmore s' hs'
        exact ⟨s, List.mem_cons_of_mem _ hs, hlinks⟩

theorem LinksBranches.parts : ∀ {bs : List (Branch τ (Shape ρ τ))}
    {bs' : List (Branch τ' (Shape ρ' τ'))}, LinksBranches R test bs bs' →
    ∀ b' ∈ bs', ∃ b ∈ bs, Links R test b.shape b'.shape
  | [], _, h => by
      cases h
      exact fun _ h => by cases h
  | ⟨given, shape⟩ :: more, _, h => by
      obtain ⟨shape', more', rfl, hshape, hmore⟩ := h
      intro b' hb'
      rcases List.mem_cons.mp hb' with rfl | hb'
      · exact ⟨_, List.mem_cons_self, hshape⟩
      · obtain ⟨b, hb, hlinks⟩ := LinksBranches.parts hmore b' hb'
        exact ⟨b, List.mem_cons_of_mem _ hb, hlinks⟩

/-- A sketch that is no reference has the form of what it is finished to, and each part of that
comes from a part of the sketch. -/
theorem Links.form_parts {s : Shape ρ τ} {s' : Shape ρ' τ'} (h : Links R test s s') :
    (∃ r, s = reference r ∧ R r s') ∨
      s'.form = s.form ∧ ∀ t' ∈ s'.parts, ∃ t ∈ s.parts, Links R test t t' := by
  have hnone : ∀ t' ∈ ([] : List (Shape ρ' τ')), ∃ t ∈ ([] : List (Shape ρ τ)),
      Links R test t t' := fun _ h => by cases h
  -- One case per form: linking goes on in the parts and leaves the form.
  cases s with
  | reference r => exact Or.inl ⟨r, rfl, h⟩
  | object properties required patterns others =>
      obtain ⟨properties', patterns', others', rfl, hproperties, hpatterns, hothers⟩ := h
      obtain ⟨hnames, hproperties⟩ := hproperties.parts
      obtain ⟨hregexes, hpatterns⟩ := hpatterns.parts
      refine Or.inr ⟨?_, fun t' ht' => ?_⟩
      · have hkind : others'.kind = others.kind := by
          cases others with
          | dropped => cases hothers; rfl
          | plain => cases hothers; rfl
          | shaped shape =>
              obtain ⟨shape', rfl, -⟩ := hothers
              rfl
        simp only [form, hnames, hregexes, hkind]
      · simp only [parts, List.mem_append, List.mem_map] at ht' ⊢
        rcases ht' with (⟨p', hp', rfl⟩ | ⟨p', hp', rfl⟩) | ht'
        · obtain ⟨p, hp, -, hlinks⟩ := hproperties p' hp'
          exact ⟨p.shape, Or.inl (Or.inl ⟨p, hp, rfl⟩), hlinks⟩
        · obtain ⟨p, hp, hlinks⟩ := hpatterns p' hp'
          exact ⟨p.2, Or.inl (Or.inr ⟨p, hp, rfl⟩), hlinks⟩
        · cases others with
          | dropped => cases hothers; cases ht'
          | plain => cases hothers; cases ht'
          | shaped shape =>
              obtain ⟨shape', rfl, hlinks⟩ := hothers
              rw [List.mem_singleton.mp ht']
              exact ⟨shape, Or.inr List.mem_cons_self, hlinks⟩
  | array front rest =>
      obtain ⟨front', rest', rfl, hfront, hrest⟩ := h
      refine Or.inr ⟨rfl, fun t' ht' => ?_⟩
      rcases List.mem_append.mp ht' with ht' | ht'
      · obtain ⟨t, ht, hlinks⟩ := hfront.parts t' ht'
        exact ⟨t, List.mem_append_left _ ht, hlinks⟩
      · rw [List.mem_singleton.mp ht']
        exact ⟨rest, List.mem_append_right _ List.mem_cons_self, hrest⟩
  | union branches =>
      obtain ⟨branches', rfl, hbranches⟩ := h
      refine Or.inr ⟨rfl, fun t' ht' => ?_⟩
      obtain ⟨b', hb', rfl⟩ := List.mem_map.mp ht'
      obtain ⟨b, hb, hlinks⟩ := hbranches.parts b' hb'
      exact ⟨b.shape, List.mem_map_of_mem hb, hlinks⟩
  | nullable inner =>
      obtain ⟨inner', rfl, hinner⟩ := h
      refine Or.inr ⟨rfl, fun t' ht' => ?_⟩
      rw [List.mem_singleton.mp ht']
      exact ⟨inner, List.mem_cons_self, hinner⟩
  -- forms without parts stay as they are
  | _ =>
      cases h
      exact Or.inr ⟨rfl, hnone⟩

/-- What holds of all shapes in a sketch leads to what holds of the shapes that it is finished to,
if references become shapes of which it holds. -/
theorem Links.every_of {P : Shape ρ τ → Prop} {P' : Shape ρ' τ' → Prop}
    (hform : ∀ s s', P s → s'.form = s.form → s'.form ≠ .reference → P' s')
    (hreference : ∀ r s', P (.reference r) → R r s' → Every P' s') {s : Shape ρ τ}
    (hs : Every P s) : ∀ {s' : Shape ρ' τ'}, Links R test s s' → Every P' s' := by
  induction hs with
  | @intro s hself _ ih =>
      intro s' h
      rcases h.form_parts with ⟨r, rfl, hr⟩ | ⟨heq, hparts⟩
      · exact hreference r s' hself hr
      · by_cases href : s.form = .reference
        · cases s with
          | reference r => exact hreference r s' hself h
          | _ => cases href
        · refine .intro (hform s s' hself heq (by rwa [heq])) fun t' ht' => ?_
          obtain ⟨t, ht, hlinks⟩ := hparts t' ht'
          exact ih t ht hlinks

/-- **A property of forms passes from a sketch to what it is finished to**, if references become
shapes that have it. -/
theorem Links.every {P : Form → Prop} {s : Shape ρ τ} (hs : Every (fun t => P t.form) s)
    (hreference : ∀ r s', R r s' → Every (fun t => P t.form) s') {s' : Shape ρ' τ'}
    (h : Links R test s s') : Every (fun t => P t.form) s' :=
  h.every_of (fun _ _ hP heq _ => heq ▸ hP) (fun r s' _ hr => hreference r s' hr) hs

end

end Shape

end ReplySchema.Serializer
