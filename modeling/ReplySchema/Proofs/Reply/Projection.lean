import ReplySchema.Proofs.Reply.Delivery
import ReplySchema.Proofs.Serializer.WellFormed

/-! # What clients see of an error

Where no schema applies and nothing else was bound, an error goes out as its projection.
`Projects` says what that is without building it: which names there are, in which order, and what
each of them has.  The fixed names are reserved, so the properties of an error, whatever their
names and values are, come behind the fixed members and are none of them.

Main statement: `send_projects`.
-/

set_option autoImplicit false

namespace ReplySchema

/-! ## §1  The members of a projection -/

namespace HandlerError

variable {e : HandlerError} {status : Nat}

/-- Whether members are what clients are to see of an error that is sent with a status. -/
structure Projects (e : HandlerError) (status : Nat) (members : List (String × Json)) : Prop where
  /-- The fixed names come first, then those of the properties that are not reserved. -/
  names : Table.keys members =
    ["statusCode"] ++ (e.code.map fun _ => "code").toList ++ ["error", "message"] ++
      (Table.keys e.properties).filter fun name => !reserved.contains name
  once : (Table.keys members).Nodup
  statusCode : Table.find? "statusCode" members = some (.nat status)
  code : Table.find? "code" members = e.code.map Json.string
  error : Table.find? "error" members = some (.string (Reply.reasonPhrase status))
  message : Table.find? "message" members = some (.string e.message)
  property : ∀ name ∉ reserved, Table.find? name members = Table.find? name e.properties

theorem fixedMembers_eq : e.fixedMembers status = ("statusCode", Json.nat status) ::
    ((e.code.map fun c => ("code", Json.string c)).toList ++
      [("error", .string (Reply.reasonPhrase status)), ("message", .string e.message)]) := by
  unfold fixedMembers
  cases e.code <;> rfl

/-- The properties that are shown, behind the fixed members. -/
def projected (e : HandlerError) (status : Nat) : List (String × Json) :=
  e.fixedMembers status ++ e.properties.filter fun p => !reserved.contains p.1

theorem keys_fixedMembers : Table.keys (e.fixedMembers status) =
    ["statusCode"] ++ (e.code.map fun _ => "code").toList ++ ["error", "message"] := by
  rw [fixedMembers_eq]
  cases e.code <;> rfl

theorem keys_fixedMembers_sublist :
    (Table.keys (e.fixedMembers status)).Sublist ["statusCode", "code", "error", "message"] := by
  rw [fixedMembers_eq]
  cases e.code with
  | none => exact .cons_cons _ (.cons _ (.refl _))
  | some code => exact .refl _

theorem mem_reserved_of_fixed {name : String} (h : name ∈ Table.keys (e.fixedMembers status)) :
    name ∈ reserved := by
  have hreserved : ∀ name ∈ ["statusCode", "code", "error", "message"], name ∈ reserved := by
    decide
  exact hreserved name (keys_fixedMembers_sublist.subset h)

theorem nodup_fixedMembers : (Table.keys (e.fixedMembers status)).Nodup :=
  keys_fixedMembers_sublist.nodup (by decide)

/-- A reserved name is looked up among the fixed members, any other among the properties. -/
theorem find?_projected (name : String) : Table.find? name (e.projected status) =
    if name ∈ reserved then Table.find? name (e.fixedMembers status)
    else Table.find? name e.properties := by
  unfold projected
  rw [Table.find?_append, Table.find?_filter (fun name => !reserved.contains name)]
  by_cases hname : name ∈ reserved
  · simp [hname]
  · have hfixed : Table.find? name (e.fixedMembers status) = none := by
      by_contra hsome
      rw [← ne_eq, Option.ne_none_iff_isSome, ← Table.mem_keys_iff_find?_isSome] at hsome
      exact hname (mem_reserved_of_fixed hsome)
    simp [hname, hfixed]

theorem nodup_projected (h : (Table.keys e.properties).Nodup) :
    (Table.keys (e.projected status)).Nodup := by
  rw [projected, Table.keys_append, Table.keys_filter fun name => !reserved.contains name]
  refine List.nodup_append'.mpr ⟨nodup_fixedMembers, h.filter _, fun name hfixed hname => ?_⟩
  have hfree := (List.mem_filter.mp hname).2
  simp [mem_reserved_of_fixed hfixed] at hfree

/-- No property that is shown takes the place of a fixed member or of another one: each goes to
the end. -/
theorem projection_eq (h : (Table.keys e.properties).Nodup) :
    e.projection status = .object (e.projected status) :=
  congrArg Json.object (Table.insertAll_eq_append (nodup_projected h))

/-- **The projection shows what it is to show**, if no two properties have one name. -/
theorem projects_projected (h : (Table.keys e.properties).Nodup) :
    e.Projects status (e.projected status) where
  names := by
    rw [projected, Table.keys_append, keys_fixedMembers,
      Table.keys_filter fun name => !reserved.contains name]
  once := nodup_projected h
  statusCode := by
    rw [find?_projected, if_pos (by decide), fixedMembers_eq]
    rfl
  code := by
    rw [find?_projected, if_pos (by decide)]
    rw [fixedMembers_eq]
    cases e.code <;> rfl
  error := by
    rw [find?_projected, if_pos (by decide)]
    rw [fixedMembers_eq]
    cases e.code <;> rfl
  message := by
    rw [find?_projected, if_pos (by decide)]
    rw [fixedMembers_eq]
    cases e.code <;> rfl
  property name hname := by rw [find?_projected, if_neg hname]

/-- **A property under a reserved name changes nothing.** -/
theorem projected_withProperty {name : String} (h : name ∈ reserved) (value : Json) :
    (e.withProperty name value).projected status = e.projected status := by
  refine congrArg (e.fixedMembers status ++ ·) ?_
  exact Table.filter_insert (fun name => !reserved.contains name) (by simpa using h) _ _

theorem isSound_projected (h : (Json.object e.properties).IsSound) :
    (Json.object (e.projected status)).IsSound := by
  refine .object (projects_projected h.nodup).once fun m hm => ?_
  rcases List.mem_append.mp hm with hm | hm
  · rw [fixedMembers_eq] at hm
    simp only [List.mem_cons, List.mem_append, Option.mem_toList, Option.map_eq_some_iff] at hm
    rcases hm with rfl | ⟨c, -, rfl⟩ | rfl | rfl | hm
    · exact .number trivial
    · exact .string _
    · exact .string _
    · exact .string _
    · cases hm
  · exact h.member (List.mem_filter.mp hm).1

/-- The status of an error is its own, else that of the reply, else 500, whichever is the first
that is one of an error. -/
theorem statusFor_eq (replyStatus : Nat) : e.statusFor replyStatus =
    if 400 ≤ e.status.getD 0 then e.status.getD 0
    else if 400 ≤ replyStatus then replyStatus else 500 := by
  unfold statusFor
  cases e.status <;> rfl

theorem le_statusFor (replyStatus : Nat) : 400 ≤ e.statusFor replyStatus := by
  rw [statusFor_eq]
  split
  · assumption
  · split
    · assumption
    · decide

end HandlerError

/-! ## §2  The text of a value -/

theorem Grammar.spellsText_text {v : Json} (h : v.IsSound) :
    SpellsText v.text (Written.ofJson v) := by
  refine ⟨[], (Written.ofJson v).chars, [], isBlank_nil,
    spells_chars (Serializer.Plan.isFine_ofJson h), isBlank_nil, ?_⟩
  rw [List.nil_append, List.append_nil]
  exact String.toList_ofList

/-! ## §3  Errors that are sent -/

namespace Pipeline

variable {p : Pipeline} {reply : Reply} {s : Serving} {error : HandlerError}

theorem errorResponse_default (hhandler : p.errorHandler = .default)
    (hraw : p.replySerializer = none) {replyStatus : Nat} {contentType : Option String}
    {states : List ReplyState} {found : Except SerializeError (Option Serializer)}
    (hfound : found = .ok none) :
    p.errorResponse error replyStatus contentType states found =
      { status := error.statusFor replyStatus
        contentType := contentType.getD MediaType.jsonUtf8
        body := .text (error.projection (error.statusFor replyStatus)).text
        states := states ++ [.errorSerializing] ++ [.sentError] } := by
  unfold errorResponse errorPayloadBy
  rw [hhandler, hraw, hfound]
  rfl

/-- **An error goes out as its projection**, the one that a reply carries or that took its place,
if nothing but the built-in handler was bound and no schema applies to the status under which it
is sent. -/
theorem send_projects (hhandler : p.errorHandler = .default) (hraw : p.replySerializer = none)
    (hproperties : (Json.object error.properties).IsSound)
    (herror : p.errorOf reply (p.found reply.status reply.contentType s) = some error)
    (hslot : p.found (error.statusFor reply.status) reply.contentType
      (p.tell error reply.status (p.afterAttempt reply s)) = .ok none) :
    ∃ sent members, ((p.send reply).run s).1 = sent ∧
      sent.outcome = .sentError ∧
      400 ≤ sent.status ∧
      sent.status = (if 400 ≤ error.status.getD 0 then error.status.getD 0
        else if 400 ≤ reply.status then reply.status else 500) ∧
      sent.body = .text (Json.object members).text ∧
      Grammar.SpellsText (Json.object members).text (Written.ofJson (.object members)) ∧
      error.Projects sent.status members ∧
      ∀ name ∈ HandlerError.reserved, ∀ value,
        (error.withProperty name value).projection sent.status = .object members := by
  unfold errorOf at herror
  cases hattempt : p.attempt reply (p.found reply.status reply.contentType s) with
  | ok sent =>
      rw [hattempt] at herror
      cases herror
  | error ended =>
      obtain ⟨error', states⟩ := ended
      rw [hattempt] at herror
      obtain rfl := Option.some.inj herror
      have hnodup := hproperties.nodup
      have hsent : ((p.send reply).run s).1 =
          { status := error'.statusFor reply.status
            contentType := reply.contentType.getD MediaType.jsonUtf8
            body := .text (error'.projection (error'.statusFor reply.status)).text
            states := states ++ [.errorSerializing] ++ [.sentError] } := by
        rw [run_send, hattempt, hhandler]
        exact errorResponse_default hhandler hraw hslot
      rw [HandlerError.projection_eq hnodup] at hsent
      refine ⟨_, error'.projected (error'.statusFor reply.status), hsent, outcome_append rfl,
        HandlerError.le_statusFor _, HandlerError.statusFor_eq _, rfl,
        Grammar.spellsText_text (HandlerError.isSound_projected hproperties),
        HandlerError.projects_projected hnodup, fun name hname value => ?_⟩
      -- a reserved name changes nothing, so its value never comes into the body
      have hadded : (Table.keys (error'.withProperty name value).properties).Nodup :=
        Table.nodup_keys_insert name value hnodup
      rw [HandlerError.projection_eq hadded, HandlerError.projected_withProperty hname]

/-- An error without a code, whose properties would be its status, its code and its message. -/
def forging : HandlerError :=
  { message := "no", status := some 200,
    properties := [("statusCode", .nat 200), ("left", .nat 3), ("code", .string "OK"),
      ("message", .null)] }

/-- A pipeline to which nothing is bound, on a route without schemas. -/
def bare : Pipeline :=
  { method := "GET", url := "/", replySerializer := none, errorHandler := .default,
    observers := [], lookup := fun _ _ => pure none }

theorem send_projects_forging :
    (Json.object forging.properties).IsSound ∧
      ∃ sent members,
        ((bare.send { status := 404, body := .error forging }).run { cache := {} }).1 = sent ∧
        sent.outcome = .sentError ∧ sent.status = 404 ∧
        sent.body = .text (Json.object members).text ∧
        (Json.object members).text =
          "\x7b\"statusCode\":404,\"error\":\"Not Found\",\"message\":\"no\",\"left\":3\x7d" ∧
        forging.Projects 404 members := by
  have hsound : (Json.object forging.properties).IsSound := by
    have hobject := @Json.isSound_cons
    refine hobject (by decide) (.number trivial) (hobject (by decide) (.number trivial)
      (hobject (by decide) (.string _) (hobject (by decide) .null Json.isSound_nil)))
  have herror : bare.errorOf { status := 404, body := .error forging }
      (bare.found 404 none { cache := {} }) = some forging := rfl
  obtain ⟨sent, members, hsent, houtcome, -, hstatus, hbody, -, hprojects, hforged⟩ :=
    send_projects (p := bare) (s := { cache := {} }) rfl rfl hsound herror rfl
  have hstatus : sent.status = 404 := hstatus
  rw [hstatus] at hprojects hforged
  refine ⟨hsound, sent, members, hsent, houtcome, hstatus, hbody, ?_, hprojects⟩
  rw [← hforged "code" (by decide) (.string "OK")]
  decide +kernel

end Pipeline

end ReplySchema
