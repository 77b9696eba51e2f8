import ReplySchema.Serializer.Output

/-! # What the octets say

A plan adds octets as it goes down a value.  They are the octets of a written value: every step
adds the characters of what it writes (`emits_put`), so what a plan puts out is the text of the
written value, and the octets are always those of a text (`serialize_eq`).

The two loops over the members of an object share a flag.  What a loop adds depends on the flag
that it is given (`listed`), and the flag that it hands on says whether anything was added.
-/

set_option autoImplicit false

namespace ReplySchema.Serializer

/-! ## §1  Steps that add octets -/

section
variable {α β : Type}

/-- Whether a step fails with an error, or comes to a value and adds the octets of characters. -/
structure Emits (x : Writing α) (r : Except SerializeError (α × List Char)) : Prop where
  run : ∀ out, x.run out = r.map fun p => (p.1, out ++ p.2.utf8Encode)

theorem emits_pure (a : α) : Emits (pure a) (.ok (a, [])) := by
  refine ⟨fun out => ?_⟩
  rw [StateT.run_pure, Except.map, List.utf8Encode_nil, ByteArray.append_empty]
  rfl

theorem emits_throw (e : SerializeError) : Emits (throw e : Writing α) (.error e) := ⟨fun _ => rfl⟩

/-- Behind a step that comes to a value the next one goes on with it. -/
theorem Emits.bind {x : Writing α} {f : α → Writing β} {a : α} {cs : List Char}
    {r : Except SerializeError (β × List Char)} (h : Emits x (.ok (a, cs))) (hf : Emits (f a) r) :
    Emits (x >>= f) (r.map fun p => (p.1, cs ++ p.2)) := by
  refine ⟨fun out => ?_⟩
  rw [StateT.run_bind, h.run out]
  change (f a).run _ = _
  rw [hf.run]
  cases r with
  | error e => rfl
  | ok p => simp only [Except.map, List.utf8Encode_append, ByteArray.append_assoc]

theorem Emits.bind_error {x : Writing α} {f : α → Writing β} {e : SerializeError}
    (h : Emits x (.error e)) : Emits (x >>= f) (.error e) := by
  refine ⟨fun out => ?_⟩
  rw [StateT.run_bind, h.run out]
  rfl

theorem Emits.then {x : Writing Unit} {y : Writing β} {cs : List Char}
    {r : Except SerializeError (β × List Char)} (h : Emits x (.ok ((), cs))) (h' : Emits y r) :
    Emits (x >>= fun _ => y) (r.map fun p => (p.1, cs ++ p.2)) :=
  h.bind (f := fun _ => y) h'

theorem emits_extend (text : String) : Emits (Writing.extend text) (.ok ((), text.toList)) := by
  refine ⟨fun out => ?_⟩
  rw [Except.map, String.utf8Encode_toList]
  rfl

theorem emits_push {c : Char} (h : [c].utf8Encode = ⟨#[c.toUInt8]⟩) :
    Emits (Writing.push c) (.ok ((), [c])) := by
  refine ⟨fun out => ?_⟩
  have hpush : out.push c.toUInt8 = out ++ [c].utf8Encode := by
    rw [h]
    ext1
    simp
  exact congrArg (fun out => Except.ok ((), out)) hpush

theorem emits_chars (cs : List Char) :
    Emits (Writing.extend (String.ofList cs)) (.ok ((), cs)) := by
  have h := emits_extend (String.ofList cs)
  rwa [String.toList_ofList] at h

theorem emits_json (v : Json) :
    Emits (Writing.json v) ((Except.ok (Written.ofJson v)).map fun w => ((), w.chars)) :=
  emits_chars _

end

namespace Plan

/-! ## §2  Members and items behind one another -/

/-- What stands in front of a member or an item. -/
def comma (first : Bool) : List Char := if first then [] else [',']

/-- The characters of members, each behind a comma unless it is the first of all. -/
def listed : Bool → List (String × Written) → List Char
  | _, [] => []
  | first, m :: rest =>
      comma first ++ (Written.quoteChars m.1 ++ ':' :: m.2.chars) ++ listed false rest

def listedItems : Bool → List Written → List Char
  | _, [] => []
  | first, w :: rest => comma first ++ w.chars ++ listedItems false rest

theorem listed_append (first : Bool) (ms ms' : List (String × Written)) :
    listed first (ms ++ ms') = listed first ms ++ listed (first && ms.isEmpty) ms' := by
  induction ms generalizing first with
  | nil => rw [List.isEmpty_nil, Bool.and_true]; rfl
  | cons m rest ih =>
      rw [List.cons_append, listed, listed, ih, List.isEmpty_cons, Bool.and_false, Bool.false_and]
      simp only [List.append_assoc]

theorem membersTail_eq (ms : List (String × Written)) :
    Written.membersTail ms = listed false ms ++ ['\x7d'] := by
  induction ms with
  | nil => rfl
  | cons m rest ih =>
      rw [Written.membersTail, ih]
      simp [listed, comma]

theorem itemsTail_eq (ws : List Written) :
    Written.itemsTail ws = listedItems false ws ++ [']'] := by
  induction ws with
  | nil => rfl
  | cons w rest ih =>
      rw [Written.itemsTail, ih]
      simp [listedItems, comma]

theorem chars_object (ms : List (String × Written)) :
    (Written.object ms).chars = '\x7b' :: (listed true ms ++ ['\x7d']) := by
  cases ms with
  | nil => rfl
  | cons m rest =>
      rw [Written.chars, membersTail_eq]
      simp [listed, comma]

theorem chars_array (ws : List Written) :
    (Written.array ws).chars = '[' :: (listedItems true ws ++ [']']) := by
  cases ws with
  | nil => rfl
  | cons w rest =>
      rw [Written.chars, itemsTail_eq]
      simp [listedItems, comma]

theorem emits_separate (first : Bool) : Emits (Writing.separate first) (.ok ((), comma first)) := by
  cases first with
  | true => exact emits_pure ()
  | false => exact emits_push rfl

/-! ## §3  The loops -/

/-- Whether a loop adds the members of a list, whichever flag it is given, and hands on whether
there is still none. -/
def Lists (x : Bool → Writing Bool) (r : Except SerializeError (List (String × Written))) : Prop :=
  ∀ first, Emits (x first) (r.map fun ms => (first && ms.isEmpty, listed first ms))

theorem lists_nil : Lists (fun first => pure first) (.ok []) := fun first => by
  simpa [Except.map, listed] using emits_pure first

/-- One loop behind the other: the flag that the first hands on is the one the second needs. -/
theorem Lists.append {x y : Bool → Writing Bool}
    {r q : Except SerializeError (List (String × Written))} (h : Lists x r) (h' : Lists y q) :
    Lists (fun first => x first >>= y) (r.bind fun ms => q.map fun ms' => ms ++ ms') := by
  intro first
  have hx := h first
  cases r with
  | error e => exact hx.bind_error
  | ok ms =>
      have hboth := hx.bind (h' _)
      cases q with
      | error e => exact hboth
      | ok ms' =>
          have hempty : (ms ++ ms').isEmpty = (ms.isEmpty && ms'.isEmpty) := by
            cases ms <;> rfl
          simpa only [Except.map, Except.bind, listed_append, hempty, Bool.and_assoc] using hboth

theorem Lists.emits_braced {x : Bool → Writing Bool}
    {r : Except SerializeError (List (String × Written))} (h : Lists x r) :
    Emits (do
      Writing.push '\x7b'
      let _ ← x true
      Writing.push '\x7d') (r.map fun ms => ((), (Written.object ms).chars)) := by
  have hx := h true
  cases r with
  | error e => exact (emits_push rfl).then hx.bind_error
  | ok ms =>
      have hrest := hx.bind (f := fun _ => Writing.push '\x7d') (emits_push rfl)
      have hall := (emits_push (c := '\x7b') rfl).then hrest
      rw [Except.map, chars_object]
      exact hall

/-- A member is added behind its comma, and what is added behind it is not the first. -/
theorem emits_member {key value : Writing Unit} {more : Bool → Writing Bool} {first : Bool}
    {name : String} {r : Except SerializeError Written}
    {q : Except SerializeError (List (String × Written))}
    (hkey : Emits key (.ok ((), Written.quoteChars name ++ [':'])))
    (hvalue : Emits value (r.map fun w => ((), w.chars))) (hmore : Lists more q) :
    Emits ((do
      Writing.separate first
      key
      value
      return false) >>= more) ((r.bind fun w => q.bind fun ms => .ok ((name, w) :: ms)).map
        fun ms => (first && ms.isEmpty, listed first ms)) := by
  cases r with
  | error e => exact ((emits_separate first).then (hkey.then hvalue.bind_error)).bind_error
  | ok w =>
      have hone := (emits_separate first).then (hkey.then (hvalue.then (emits_pure false)))
      have hboth := hone.bind (hmore false)
      cases q with
      | error e => exact hboth
      | ok ms =>
          simpa only [Except.map, Except.bind, List.isEmpty_cons, Bool.and_false, Bool.false_and,
            listed, List.nil_append, List.append_nil, List.append_assoc, List.singleton_append,
            List.cons_append] using hboth

section
variable {σ : Type} {put : σ → Json → Writing Unit}
  {write : σ → Json → Except SerializeError Written}
variable (hput : ∀ s v, Emits (put s v) ((write s v).map fun w => ((), w.chars)))
include hput

/-- **The first loop adds the declared members.** -/
theorem lists_declared (members : List (String × Json)) (properties : List (Property σ)) :
    Lists (fun first => properties.foldlM (putProperty put members) first)
      (writeDeclared write members properties) := by
  induction properties with
  | nil => exact lists_nil
  | cons p rest ih =>
      intro first
      dsimp only
      rw [List.foldlM_cons, writeDeclared, putProperty]
      cases Table.find? p.name members <|> p.default with
      | none => exact ih first
      | some v =>
          have hkey : Emits (Writing.extend p.key)
              (.ok ((), Written.quoteChars p.name ++ [':'])) := by
            have h := emits_extend p.key
            rwa [Property.key, String.toList_append, String.toList_ofList] at h
          exact emits_member hkey (hput p.shape v) ih

/-- **The second loop adds the other members**, behind a comma if there are any before them. -/
theorem lists_others (properties : List (Property σ)) (patterns : List (Pattern × σ))
    (others : Others σ) (members : List (String × Json)) :
    Lists (fun first => members.foldlM (putOther put properties patterns others) first)
      (writeOthers write properties patterns others members) := by
  induction members with
  | nil => exact lists_nil
  | cons m rest ih =>
      intro first
      obtain ⟨name, v⟩ := m
      dsimp only
      rw [List.foldlM_cons, writeOthers, putOther]
      split
      · exact ih first
      · cases otherShape? patterns others name with
        | none => exact ih first
        | some shape? =>
            have hkey : Emits (Writing.name name) (.ok ((), Written.quoteChars name ++ [':'])) :=
              (emits_chars _).then (emits_push rfl)
            cases shape? with
            | some shape => exact emits_member hkey (hput shape v) ih
            | none => exact emits_member hkey (emits_json v) ih

end

/-- Where other members are left out and no patterns admit them, none is written. -/
theorem writeOthers_dropped {σ : Type} {write : σ → Json → Except SerializeError Written}
    {properties : List (Property σ)} (members : List (String × Json)) :
    writeOthers write properties [] .dropped members = .ok [] := by
  induction members with
  | nil => rfl
  | cons m rest ih =>
      rw [writeOthers]
      split
      · exact ih
      · exact ih

section
variable {σ : Type} {put : σ → Json → Writing Unit}
  {write : σ → Json → Except SerializeError Written}
variable (hput : ∀ s v, Emits (put s v) ((write s v).map fun w => ((), w.chars)))
include hput

/-- The second loop may be left out where it would add nothing. -/
theorem lists_admitted (properties : List (Property σ)) (patterns : List (Pattern × σ))
    (others : Others σ) (members : List (String × Json)) :
    Lists (putOthers put properties patterns others members)
      (writeOthers write properties patterns others members) := by
  unfold putOthers
  cases hadmits : admitsOthers patterns others with
  | true => exact lists_others hput properties patterns others members
  | false =>
      obtain ⟨rfl, rfl⟩ : patterns = [] ∧ others = .dropped := by
        cases others with
        | dropped =>
            exact ⟨by simpa [admitsOthers] using hadmits, rfl⟩
        | _ => cases hadmits
      rw [writeOthers_dropped]
      exact lists_nil

theorem emits_putObject (properties : List (Property σ)) (required : List String)
    (patterns : List (Pattern × σ)) (others : Others σ) (v : Json) :
    Emits (putObject put properties required patterns others v)
      ((writeObject write properties required patterns others v).map fun w => ((), w.chars)) := by
  rw [putObject, writeObject]
  cases missing? properties required v.members with
  | some name => exact emits_throw _
  | none =>
      have hmembers := ((lists_declared hput v.members properties).append
        (lists_admitted hput properties patterns others v.members)).emits_braced
      simp only [bind_assoc] at hmembers
      cases hdeclared : writeDeclared write v.members properties with
      | error e => rwa [hdeclared] at hmembers
      | ok declared =>
          rw [hdeclared] at hmembers
          cases hmore : writeOthers write properties patterns others v.members with
          | error e => rwa [hmore] at hmembers
          | ok more => rwa [hmore] at hmembers

/-- **The items are added from a place on**, the first of all without a comma. -/
theorem emits_items (front : List σ) (rest : σ) (items : List Json) : ∀ n,
    Emits ((items.zipIdx n).forM (putItem put front rest))
      ((writeItems write rest (front.drop n) items).map fun ws =>
        ((), listedItems (n == 0) ws)) := by
  induction items with
  | nil =>
      intro n
      rw [writeItems]
      exact emits_pure ()
  | cons x more ih =>
      intro n
      have hshape : writeItems write rest (front.drop n) (x :: more) =
          (write (front.getD n rest) x).bind fun w =>
            (writeItems write rest (front.drop (n + 1)) more).map fun ws => w :: ws := by
        rw [List.getD_eq_getElem?_getD, ← List.drop_drop]
        have hhead : front[n]? = (front.drop n).head? := List.head?_drop.symm
        rw [hhead]
        cases front.drop n with
        | nil => rfl
        | cons s more => rfl
      rw [hshape, List.zipIdx_cons, List.forM, putItem]
      have hitem := hput (front.getD n rest) x
      have hmore := ih (n + 1)
      cases hw : write (front.getD n rest) x with
      | error e =>
          rw [hw] at hitem
          exact ((emits_separate _).then hitem).bind_error
      | ok w =>
          rw [hw] at hitem
          have hone := (emits_separate (n == 0)).then hitem
          have hall := hone.then hmore
          cases hws : writeItems write rest (front.drop (n + 1)) more with
          | error e => rwa [hws] at hall
          | ok ws =>
              rw [hws] at hall
              have hn : (n + 1 == 0) = false := rfl
              simpa only [Except.map, Except.bind, listedItems, hn, List.append_assoc] using hall

theorem emits_putArray (front : List σ) (rest : σ) (items : List Json) :
    Emits (putArray put front rest items)
      ((writeItems write rest front items).map fun ws => ((), (Written.array ws).chars)) := by
  have hitems := emits_items hput front rest items 0
  rw [List.drop_zero] at hitems
  unfold putArray
  cases hws : writeItems write rest front items with
  | error e =>
      rw [hws] at hitems
      exact (emits_push rfl).then hitems.bind_error
  | ok ws =>
      rw [hws] at hitems
      have hall := (emits_push (c := '[') rfl).then (hitems.then (emits_push (c := ']') rfl))
      rw [Except.map, chars_array]
      exact hall

end

/-! ## §4  Values -/

/-- **A plan adds the octets of what it writes**, and fails where that fails. -/
theorem emits_put (plan : Plan) : ∀ (room : Nat) (node : Node) (v : Json),
    Emits (plan.put room node v) ((plan.write room node v).map fun w => ((), w.chars)) := by
  -- Induction on the room, as in `write`; the two loops have lemmas of their own.
  intro room
  induction room with
  | zero => exact fun _ _ => emits_throw _
  | succ room ih =>
      intro node v
      cases node with
      | any => exact emits_json v
      | reference key =>
          rw [put, write]
          cases Table.find? key plan.targets with
          | none => exact emits_json v
          | some target =>
              cases target with
              | none => exact emits_json v
              | some shape => exact ih shape v
      | const expected => exact emits_json expected
      | null => exact emits_extend "null"
      | boolean =>
          rw [put, write]
          cases Coercion.truthy v with
          | true => exact emits_extend "true"
          | false => exact emits_extend "false"
      | integer =>
          rw [put, write]
          cases Coercion.integerChars? plan.rounding v with
          | some digits => exact emits_chars digits
          | none => exact emits_throw _
      | number =>
          rw [put, write]
          cases Coercion.numberChars? v with
          | some digits => exact emits_chars digits
          | none => exact emits_throw _
      | string => exact emits_chars _
      | object properties required patterns others =>
          exact emits_putObject ih properties required patterns others v
      | array front rest =>
          cases v with
          | array items =>
              have hitems := emits_putArray ih front rest items
              rw [put, write]
              cases hws : writeItems (plan.write room) rest front items with
              | error e => rwa [hws] at hitems
              | ok ws => rwa [hws] at hitems
          | _ => exact emits_throw _
      | union branches =>
          rw [put, write]
          cases plan.choose? branches v with
          | some shape => exact ih shape v
          | none => exact emits_json v
      | nullable inner =>
          rw [put, write]
          cases v.isNull with
          | true => exact emits_extend "null"
          | false => exact ih inner v

/-- **What a plan puts out is the text of what it writes.** -/
theorem serialize_eq (plan : Plan) (v : Json) :
    plan.serialize v = (do return (← plan.written v).text) := by
  have hrun := (emits_put plan (SerializeError.greatestDepth + 1) plan.root v).run .empty
  unfold serialize written
  rw [hrun]
  cases plan.write (SerializeError.greatestDepth + 1) plan.root v with
  | error e => rfl
  | ok w =>
      have htext : String.fromUTF8? (ByteArray.empty ++ w.chars.utf8Encode) = some w.text := by
        rw [ByteArray.empty_append]
        exact dif_pos w.text.isValidUTF8
      simp only [Except.map, bind, Except.bind, htext]

end Plan

end ReplySchema.Serializer
