import ReplySchema.Pattern.Backtracking.Program

/-! # The machine

The machine goes through a program along a text.  At a fork it keeps the other way for
later; where it fails, it goes back to the way it kept last.  It does so a million
times, and then gives up without an answer.

`step` is one instruction.  `run` takes steps until the machine is done.
-/

set_option autoImplicit false

namespace ReplySchema.Pattern.Backtracking

-- Powers are those of the core library, whatever else is imported.
attribute [local instance (high)] instPowNat

/-- What the machine knows on its way. -/
structure Way where
  counter : Nat
  spot : Nat
  /-- The slots; those that nothing has been noted in are empty. -/
  slots : Array (Option Nat)
  /-- How many ways were kept when atomic parts began, the innermost first. -/
  marks : List Nat := []

structure State where
  way : Way
  /-- The ways kept for later, the last one first. -/
  kept : List Way := []
  /-- How often the machine has gone back. -/
  failures : Nat := 0

/-- How a run ends. -/
inductive Outcome where
  | found
  | notFound
  /-- The machine has gone back too often. -/
  | overrun
deriving DecidableEq

def failureLimit : Nat := 1000000

namespace Way

def next (w : Way) : Way := { w with counter := w.counter + 1 }

def goTo (n : Nat) (w : Way) : Way := { w with counter := n }

def advance (n : Nat) (w : Way) : Way := { w with spot := w.spot + n }

def slot (n : Nat) (w : Way) : Option Nat := (w.slots[n]?).join

def note (n : Nat) (v : Option Nat) (w : Way) : Way :=
  { w with slots := w.slots.setIfInBounds n v }

/-- Notes the spans of the groups of a plain pattern. -/
def noteGroups (first : Nat) (count : Nat) (groups : List (Nat × Nat × Nat)) (w : Way) : Way :=
  (List.range count).foldl (fun w i =>
    let span := groups.lookup (i + 1)
    (w.note (2 * (first + i)) (span.map (·.1))).note (2 * (first + i) + 1) (span.map (·.2))) w

end Way

/-! ## §1  Conditions -/

def standsAt (text : Array Char) : Nat → List Char → Bool
  | _, [] => true
  | i, c :: rest => text[i]? == some c && standsAt text (i + 1) rest

def sameLetter (caseless : Bool) (a b : Char) : Bool :=
  a == b || (caseless && Unicode.Ranges.contains b.toNat
    (Unicode.caseVariants (CharSet.single a)))

/-- Whether the characters of a span stand at a place once more, as far as case counts. -/
def repeatsSpan (text : Array Char) (caseless : Bool) (from_ i : Nat) : Nat → Bool
  | 0 => true
  | n + 1 =>
      (match text[from_]?, text[i]? with
        | some a, some b => sameLetter caseless a b
        | _, _ => false) && repeatsSpan text caseless (from_ + 1) (i + 1) n

/-- The number of characters of the end of a line at a place. -/
def lineBreakLength (text : Array Char) (i : Nat) : Nat :=
  match codeAt? text i with
  | some 0x0D => if codeAt? text (i + 1) = some 0x0A then 2 else 1
  | some n => if (0x0A ≤ n && n ≤ 0x0C) || n == 0x85 || n == 0x2028 || n == 0x2029 then 1 else 0
  | none => 0

def dotAdmits (newline crlf : Bool) (c : Char) : Bool :=
  newline || (c != '\n' && !(crlf && c == '\r'))

/-- The groups of a match that ends at a place and starts as early as possible. -/
def endsHere? (text : Array Char) (p : Pattern) (i : Nat) : Option Place :=
  (List.range (i + 1)).findSome? fun start =>
    (p.ends text { spot := start }).find? fun q => q.spot == i

/-! ## §2  Steps -/

/-- What an instruction makes of the machine. -/
inductive Effect where
  | go (way : Way)
  /-- Goes on and keeps another way for later. -/
  | fork (way other : Way)
  /-- Goes on and forgets all ways but the oldest ones, so many. -/
  | cut (way : Way) (count : Nat)
  | fail
  /-- Forgets the ways that were kept since a look began, and fails. -/
  | failLook (next : Nat)
  | found

def roundEffect (w : Way) (count least next slot : Nat) (greedy : Bool) : Effect :=
  let more := (w.note slot (some (count + 1))).next
  if count < least then .go more
  else if greedy then .fork more (more.goTo next)
  else .fork (more.goTo next) more

def effect (text : Array Char) (start : Nat) (kept : Nat) (w : Way) : Instruction → Effect
  | .done => .found
  | .anyChar newline crlf =>
      match text[w.spot]? with
      | some c => if dotAdmits newline crlf c then .go (w.advance 1).next else .fail
      | none => .fail
  | .chars cs => if standsAt text w.spot cs then .go (w.advance cs.length).next else .fail
  | .edge kind => if kind.holds text w.spot then .go w.next else .fail
  | .fork first second => .fork (w.goTo first) (w.goTo second)
  | .jump target => .go (w.goTo target)
  | .save slot => .go (w.note slot (some w.spot)).next
  | .clear slot => .go (w.note slot (some 0)).next
  | .restore slot => .go { w.next with spot := (w.slot slot).getD w.spot }
  | .round least most next slot greedy =>
      let count := (w.slot slot).getD 0
      if count = most then .go (w.goTo next) else roundEffect w count least next slot greedy
  | .roundOrNothing least next slot check greedy =>
      let count := (w.slot slot).getD 0
      if 0 < count ∧ w.slot check = some w.spot then .go (w.goTo next)
      else
        roundEffect (if count < least then w else w.note check (some w.spot)) count least next slot
          greedy
  | .back count => if w.spot < count then .fail else .go { w.next with spot := w.spot - count }
  | .plainBehind p => if (endsHere? text p w.spot).isSome then .go w.next else .fail
  | .failLook => .failLook (w.counter + 1)
  | .backReference g caseless =>
      match w.slot (2 * g), w.slot (2 * g + 1) with
      | some i, some j =>
          if repeatsSpan text caseless i w.spot (j - i) then .go (w.advance (j - i)).next else .fail
      | _, _ => .fail
  | .hasMatched g => if (w.slot (2 * g)).isSome then .go w.next else .fail
  | .beginAtomic => .go { w.next with marks := kept :: w.marks }
  | .endAtomic =>
      match w.marks with
      | mark :: rest => .cut { w.next with marks := rest } mark
      | [] => .fail
  | .plain p first behind =>
      match p.match? text w.spot with
      | some q => .go { (w.noteGroups first (behind - first) q.groups).next with spot := q.spot }
      | none => .fail
  | .searchStart => if w.spot = start then .go w.next else .fail
  | .lineBreak =>
      match lineBreakLength text w.spot with
      | 0 => .fail
      | n => .go (w.advance n).next

/-- Goes back to the way that was kept last. -/
def goBack (s : State) : Except Outcome State :=
  match s.kept with
  | [] => .error .notFound
  | w :: rest =>
      if s.failures < failureLimit then
        .ok { way := w, kept := rest, failures := s.failures + 1 }
      else .error .overrun

/-- One instruction.  Where there is none the program is done. -/
def step (p : Program) (text : Array Char) (s : State) : Except Outcome State :=
  match effect text 0 s.kept.length s.way (p.code.getD s.way.counter .done) with
  | .go w => .ok { s with way := w }
  | .fork w other => .ok { s with way := w, kept := other :: s.kept }
  | .cut w count => .ok { s with way := w, kept := s.kept.drop (s.kept.length - count) }
  | .fail => goBack s
  | .failLook next =>
      goBack { s with kept := (s.kept.dropWhile fun w => w.counter != next).drop 1 }
  | .found => .error .found

/-- Takes so many steps, unless the machine is done before. -/
def run (p : Program) (text : Array Char) : Nat → State → Outcome
  | 0, _ => .overrun
  | n + 1, s =>
      match step p text s with
      | .ok s' => run p text n s'
      | .error outcome => outcome

/-- More steps than the machine takes before it has gone back too often. -/
def stepLimit : Nat := 2 ^ (40 : Nat)

def Program.search (p : Program) (text : Array Char) : Outcome :=
  run p text stepLimit { way := { counter := 0, spot := 0, slots := Array.replicate p.slots none } }

end ReplySchema.Pattern.Backtracking
