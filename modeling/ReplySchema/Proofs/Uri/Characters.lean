import ReplySchema.Proofs.Domain.Ascii
import ReplySchema.Proofs.Text.Ends
import ReplySchema.Uri.Basic

/-! # The characters of addresses

An address is written with printable ASCII characters, whatever it was read from: all others are
encoded, left out, or make it unreadable.  Spaces can only stand in a path that is kept whole, and
the mark of the fragment only in front of the fragment (`isPrintable_read?`).

So the text of an address without its fragment neither starts nor ends with a blank, and it does
not end with that mark (`endsTight_text_of_read?`).
-/

set_option autoImplicit false

namespace ReplySchema.Uri

/-- Whether a character is printable ASCII, and neither a space nor the mark of a fragment. -/
def isTight (c : Char) : Bool := 0x20 < c.toNat && c.toNat < 0x7F && c != '#'

theorem isTight_iff {c : Char} : isTight c = true ↔ 0x20 < c.toNat ∧ c.toNat < 0x7F ∧ c ≠ '#' := by
  simp [isTight, and_assoc]

theorem isBlank_of_isTight {c : Char} (h : isTight c = true) : Text.isBlank c = false := by
  obtain ⟨hlow, hhigh, -⟩ := isTight_iff.mp h
  simp only [Text.isBlank, Bool.or_eq_false_iff, Bool.and_eq_false_iff, decide_eq_false_iff_not,
    beq_eq_false_iff_ne]
  omega

def AllTight (cs : List Char) : Prop := ∀ c ∈ cs, isTight c = true

-- Not found by inference: that would try all characters there are.
instance (cs : List Char) : Decidable (AllTight cs) :=
  decidable_of_iff (cs.all isTight = true) List.all_eq_true

theorem AllTight.append {cs ds : List Char} (hcs : AllTight cs) (hds : AllTight ds) :
    AllTight (cs ++ ds) := by
  intro c hc
  rcases List.mem_append.mp hc with hc | hc
  · exact hcs c hc
  · exact hds c hc

theorem AllTight.cons {c : Char} {cs : List Char} (hc : isTight c = true) (hcs : AllTight cs) :
    AllTight (c :: cs) := by
  intro d hd
  rcases List.mem_cons.mp hd with rfl | hd
  · exact hc
  · exact hcs d hd

theorem AllTight.sublist {cs ds : List Char} (h : AllTight cs) (hds : ds.Sublist cs) :
    AllTight ds := fun c hc => h c (hds.subset hc)

theorem allTight_nil : AllTight [] := nofun

/-! ## §1  Digits -/

theorem isTight_digitChar : ∀ n < 16, isTight (Nat.digitChar n) = true ∧
    isTight (Nat.digitChar n).toUpper = true := by
  decide

theorem allTight_toDigits {base : Nat} (hbase : 1 < base) (hle : base ≤ 16) (n : Nat) :
    AllTight (Nat.toDigits base n) := by
  induction n using Nat.strongRecOn with
  | _ n ih =>
      rw [Nat.toDigits_eq_if hbase]
      split
      · rename_i hlt
        exact AllTight.cons (isTight_digitChar n (by omega)).1 allTight_nil
      · have hdigit : n % base < 16 := Nat.lt_of_lt_of_le (Nat.mod_lt n (by omega)) hle
        refine AllTight.append (ih (n / base) ?_)
          (AllTight.cons (isTight_digitChar _ hdigit).1 allTight_nil)
        exact Nat.div_lt_self (by omega) hbase

theorem allTight_ofNat (n : Nat) : AllTight (Decimal.ofNat n).toList := by
  unfold Decimal.ofNat Decimal.digits
  rw [String.toList_ofList]
  exact allTight_toDigits (by decide) (by decide) n

theorem allTight_joinWith {sep : String} (hsep : AllTight sep.toList) : ∀ {parts : List String},
    (∀ part ∈ parts, AllTight part.toList) → AllTight (Text.joinWith sep parts).toList
  | [], _ => allTight_nil
  | [part], h => h part (List.mem_singleton_self part)
  | part :: next :: rest, h => by
      show AllTight (part ++ sep ++ Text.joinWith sep (next :: rest)).toList
      rw [String.toList_append, String.toList_append]
      refine AllTight.append (AllTight.append (h part List.mem_cons_self) hsep) ?_
      exact allTight_joinWith hsep fun p hp => h p (List.mem_cons_of_mem _ hp)

/-! ## §2  Percent encoding -/

theorem allTight_percentOctet (b : UInt8) : AllTight (percentOctet b) := by
  have hlt : b.toNat < 256 := b.toNat_lt
  have hhigh := (isTight_digitChar (b.toNat / 16) (by omega)).2
  have hlow := (isTight_digitChar (b.toNat % 16) (by omega)).2
  exact AllTight.cons (by decide) (AllTight.cons hhigh (AllTight.cons hlow allTight_nil))

/-- A character behind percent encoding is tight, or one of the two that were left as they were. -/
theorem mem_encodeChars {extra cs : List Char} {c : Char} (h : c ∈ encodeChars extra cs) :
    isTight c = true ∨ (c ∈ cs ∧ c ∉ extra ∧ (c = ' ' ∨ c = '#')) := by
  unfold encodeChars at h
  obtain ⟨d, hd, hc⟩ := List.mem_flatMap.mp h
  split at hc
  · obtain ⟨b, -, hc⟩ := List.mem_flatMap.mp hc
    exact Or.inl (allTight_percentOctet b c hc)
  · rename_i hplain
    obtain rfl := List.mem_singleton.mp hc
    simp only [isControl, Bool.or_eq_true, decide_eq_true_eq, List.contains_iff_mem, not_or] at hplain
    obtain ⟨⟨hlow, hhigh⟩, hextra⟩ := hplain
    by_cases hmark : c = ' ' ∨ c = '#'
    · exact Or.inr ⟨hd, hextra, hmark⟩
    · left
      rw [not_or] at hmark
      refine isTight_iff.mpr ⟨?_, by omega, hmark.2⟩
      have hne : c.toNat ≠ 0x20 := by
        intro heq
        exact hmark.1 (by rw [← Char.ofNat_toNat c, heq])
      omega

theorem allTight_encodeChars {extra cs : List Char} (hspace : ' ' ∈ extra) (hmark : '#' ∈ extra) :
    AllTight (encodeChars extra cs) := by
  intro c hc
  rcases mem_encodeChars hc with h | ⟨-, hextra, rfl | rfl⟩
  · exact h
  · exact absurd hspace hextra
  · exact absurd hmark hextra

/-! ## §3  Hosts -/

theorem allTight_dotted (octets : List Nat) : AllTight (dotted octets).toList := by
  have hstop : AllTight ".".toList := by decide
  refine allTight_joinWith hstop ?_
  intro part hpart
  obtain ⟨n, -, rfl⟩ := List.mem_map.mp hpart
  exact allTight_ofNat n

theorem allTight_grouped (gs : List Nat) : AllTight (grouped gs).toList := by
  have hjoined : ∀ groups : List Nat,
      AllTight (Text.joinWith ":" (groups.map groupText)).toList := by
    intro groups
    have hcolon : AllTight ":".toList := by decide
    refine allTight_joinWith hcolon ?_
    intro part hpart
    obtain ⟨n, -, rfl⟩ := List.mem_map.mp hpart
    rw [groupText, String.toList_ofList]
    exact allTight_toDigits (by decide) (by decide) n
  unfold grouped
  dsimp only
  split
  · exact hjoined gs
  · rw [String.toList_append, String.toList_append]
    have hcolons : AllTight "::".toList := by decide
    exact AllTight.append (AllTight.append (hjoined _) hcolons) (hjoined _)

theorem allTight_bracketed? {cs : List Char} {host : String} (h : bracketed? cs = some host) :
    AllTight host.toList := by
  unfold bracketed? at h
  split at h
  · obtain ⟨gs, -, rfl⟩ := Option.map_eq_some_iff.mp h
    rw [String.toList_append, String.toList_append]
    have hopen : AllTight "[".toList := by decide
    have hclose : AllTight "]".toList := by decide
    exact AllTight.append (AllTight.append hopen (allTight_grouped gs)) hclose
  · cases h

theorem isTight_of_fits {c : Char} (h : nameRules.Fits c.toNat) : isTight c = true := by
  obtain ⟨hascii, hallowed | hplain | hstop⟩ := h
  · simp only [nameRules, Bool.and_eq_true, decide_eq_true_eq, bne_iff_ne, Bool.not_eq_true',
      Char.ofNat_toNat] at hallowed
    obtain ⟨⟨⟨hlow, hhigh⟩, -⟩, hforbidden⟩ := hallowed
    refine isTight_iff.mpr ⟨hlow, hhigh, ?_⟩
    rintro rfl
    exact absurd hforbidden (by decide)
  · simp only [Domain.isPlain, Domain.between, Domain.hyphen, Bool.or_eq_true, Bool.and_eq_true,
      decide_eq_true_eq, beq_iff_eq] at hplain
    refine isTight_iff.mpr ⟨by omega, by omega, ?_⟩
    rintro rfl
    exact absurd hplain (by decide)
  · refine isTight_iff.mpr ⟨by omega, by omega, ?_⟩
    rintro rfl
    exact absurd hstop (by decide)

theorem allTight_host? {cs : List Char} {host : String} (h : host? cs = some host) :
    AllTight host.toList := by
  unfold host? at h
  split at h
  · exact allTight_bracketed? h
  · split at h
    · cases h
    · rename_i name hname
      split at h
      · cases h
      · split at h
        · obtain ⟨octets, -, rfl⟩ := Option.map_eq_some_iff.mp h
          exact allTight_dotted octets
        · cases h
          rw [String.toList_ofList]
          intro c hc
          exact isTight_of_fits (Domain.fits_of_asciiName? hname hc)

theorem allTight_plainHost? {cs : List Char} {host : String} (h : plainHost? cs = some host) :
    AllTight host.toList := by
  unfold plainHost? at h
  split at h
  · exact allTight_bracketed? h
  · split at h
    · cases h
    · rename_i hforbidden
      cases h
      rw [String.toList_ofList]
      intro c hc
      rcases mem_encodeChars hc with htight | ⟨hmem, -, hmark⟩
      · exact htight
      · exfalso
        refine hforbidden (List.any_eq_true.mpr ⟨c, hmem, ?_⟩)
        rcases hmark with rfl | rfl <;> decide

/-! ## §4  Letters -/

theorem toNat_of_isAlphanum {c : Char} (h : c.isAlphanum = true) : c.toNat < 0x80 := by
  -- the ranges of capitals, of small letters and of digits
  have hranges : (decide (c.val ≥ 65 ∧ c.val ≤ 90) || (c.val ≥ 97 && c.val ≤ 122) ||
      (c.val ≥ 48 && c.val ≤ 57)) = true := h
  have hval : c.toNat = c.val.toNat := rfl
  simp only [Bool.or_eq_true, Bool.and_eq_true, decide_eq_true_eq, ge_iff_le,
    UInt32.le_iff_toNat_le, UInt32.reduceToNat] at hranges
  omega

theorem forall_ascii {P : Char → Prop} (h : ∀ n < 0x80, P (Char.ofNat n)) {c : Char}
    (hc : c.toNat < 0x80) : P c := by
  rw [← Char.ofNat_toNat c]
  exact h c.toNat hc

theorem isTight_of_isAlphanum {c : Char} (h : c.isAlphanum = true) : isTight c = true :=
  forall_ascii (P := fun c => c.isAlphanum = true → isTight c = true) (by decide)
    (toNat_of_isAlphanum h) h

theorem isTight_toLower {c : Char}
    (h : (c.isAlphanum || c == '+' || c == '-' || c == '.') = true) : isTight c.toLower = true := by
  have hlt : c.toNat < 0x80 := by
    have hcases := h
    simp only [Bool.or_eq_true, beq_iff_eq] at hcases
    rcases hcases with ((hletter | rfl) | rfl) | rfl
    · exact toNat_of_isAlphanum hletter
    all_goals decide
  exact forall_ascii (P := fun c => (c.isAlphanum || c == '+' || c == '-' || c == '.') = true →
    isTight c.toLower = true) (by decide) hlt h

/-! ## §5  Paths -/

theorem allTight_dropSegment {file : Bool} {back : List Char} (h : AllTight back) :
    AllTight (dropSegment file back) := by
  unfold dropSegment
  split
  · exact h
  · exact h.sublist (List.dropWhile_sublist _)

theorem allTight_endWithSlash {back : List Char} (h : AllTight back) :
    AllTight (endWithSlash back) := by
  unfold endWithSlash
  split
  · exact h
  · exact AllTight.cons (by decide) h

theorem allTight_goUp {file slash : Bool} {back : List Char} (h : AllTight back) :
    AllTight (goUp file back slash) := by
  have hshort : AllTight (if back.head? = some '/' && slashMayGo back then back.tail else back) := by
    split
    · exact h.sublist (List.tail_sublist back)
    · exact h
  unfold goUp
  dsimp only
  split
  · exact allTight_endWithSlash (allTight_dropSegment hshort)
  · exact allTight_dropSegment hshort

theorem letter_of_isDrive {raw : List Char} (h : isDrive raw = true) :
    ∃ letter mark, raw = [letter, mark] ∧ letter.isAlphanum = true := by
  unfold isDrive at h
  split at h
  · rename_i letter mark
    rw [Bool.and_eq_true] at h
    exact ⟨letter, mark, rfl, by rw [Char.isAlphanum, h.1, Bool.true_or]⟩
  · cases h

theorem allTight_appendSegment {file slash : Bool} {back raw : List Char} (h : AllTight back) :
    AllTight (appendSegment file back raw slash) := by
  have hslash : ∀ {cs : List Char}, AllTight cs → AllTight ('/' :: cs) :=
    fun hcs => AllTight.cons (by decide) hcs
  have hback : AllTight
      (if file && raw != [] && isNormalDrive (back.reverse.drop 1) then '/' :: back else back) := by
    split
    · exact hslash h
    · exact h
  unfold appendSegment
  dsimp only
  generalize (if file && raw != [] && isNormalDrive (back.reverse.drop 1) then '/' :: back
    else back) = start at hback ⊢
  split
  · exact allTight_goUp hback
  · split
    · exact allTight_endWithSlash hback
    · have hshown : AllTight
          (if isHeadDrive file start raw then raw.take 1 ++ [':'] else encodeChars pathSet raw) := by
        split
        · rename_i hdrive
          rw [isHeadDrive, Bool.and_eq_true] at hdrive
          obtain ⟨letter, mark, rfl, hletter⟩ := letter_of_isDrive hdrive.2
          have hcolon : AllTight [':'] := by decide
          exact AllTight.cons (isTight_of_isAlphanum hletter) hcolon
        · exact allTight_encodeChars (by decide) (by decide)
      have hall : AllTight ((if isHeadDrive file start raw then raw.take 1 ++ [':']
          else encodeChars pathSet raw).reverse ++ start) :=
        AllTight.append (fun c hc => hshown c (List.mem_reverse.mp hc)) hback
      split
      · exact hslash hall
      · exact hall

theorem allTight_appendSegments (file : Bool) : ∀ (raws : List (List Char)) {back : List Char},
    AllTight back → AllTight (appendSegments file back raws).1
  | [], _, h => h
  | _ :: rest, _, h => allTight_appendSegments file rest (allTight_appendSegment h)

theorem allTight_readOnto {scheme start : String} {cs : List Char} (h : AllTight start.toList) :
    AllTight (readOnto scheme start cs).toList := by
  unfold readOnto readPath
  dsimp only
  rw [String.toList_ofList]
  have hstart : AllTight start.toList.reverse := fun c hc => h c (List.mem_reverse.mp hc)
  have hback := allTight_appendSegments (scheme == "file")
    (rawSegments (isSpecial scheme) (cs.takeWhile (!endsPath ·))) hstart
  have hpath : AllTight (appendSegments (scheme == "file") start.toList.reverse
      (rawSegments (isSpecial scheme) (cs.takeWhile (!endsPath ·)))).1.reverse :=
    fun c hc => hback c (List.mem_reverse.mp hc)
  split
  · exact AllTight.cons (by decide) (hpath.sublist (List.dropWhile_sublist _))
  · exact hpath

/-! ## §6  Authorities -/

theorem allTight_userText (cs : List Char) : AllTight (userText cs).toList := by
  have henc : ∀ xs : List Char, AllTight (encodeChars userSet xs) :=
    fun xs => allTight_encodeChars (by decide) (by decide)
  unfold userText
  dsimp only
  rw [String.toList_ofList]
  refine AllTight.append (henc _) ?_
  split
  · exact allTight_nil
  · split
    · exact allTight_nil
    · exact AllTight.cons (by decide) (henc _)

theorem allTight_readAuthority? {scheme : String} {cs rest : List Char} {a : Authority}
    (h : readAuthority? scheme cs = some (a, rest)) :
    AllTight a.user.toList ∧ AllTight a.host.toList := by
  have huser : ∀ user : Option (List Char), AllTight ((user.map userText).getD "").toList := by
    intro user
    cases user with
    | none =>
        have hempty : AllTight "".toList := by decide
        exact hempty
    | some cs => exact allTight_userText cs
  unfold readAuthority? at h
  dsimp only at h
  split at h
  · cases h
  · split at h
    · obtain ⟨host, hhost, h⟩ := Option.bind_eq_some_iff.mp h
      obtain ⟨port, -, h⟩ := Option.bind_eq_some_iff.mp h
      obtain ⟨-, h⟩ := Option.ite_none_left_eq_some.mp h
      cases h
      exact ⟨huser _, allTight_host? hhost⟩
    · obtain ⟨host, hhost, h⟩ := Option.bind_eq_some_iff.mp h
      obtain ⟨port, -, h⟩ := Option.bind_eq_some_iff.mp h
      obtain ⟨-, h⟩ := Option.ite_none_left_eq_some.mp h
      cases h
      exact ⟨huser _, allTight_plainHost? hhost⟩

/-! ## §7  Addresses -/

/-- Whether the parts of an address have the characters that they may have. -/
structure IsPrintable (u : Uri) : Prop where
  scheme : u.scheme.toList ≠ [] ∧ AllTight u.scheme.toList
  authority : ∀ a, u.authority = some a → AllTight a.user.toList ∧ AllTight a.host.toList
  rooted : ∀ t, u.path = .rooted t → AllTight t.toList
  whole : ∀ t, u.path = .whole t → ∀ c ∈ t.toList, isTight c = true ∨ c = ' '
  query : ∀ q, u.query = some q → AllTight q.toList

theorem allTight_readTail {scheme : String} {cs : List Char} {q : String}
    (h : (readTail scheme cs).1 = some q) : AllTight q.toList := by
  unfold readTail at h
  split at h
  · cases h
    rw [String.toList_ofList]
    refine allTight_encodeChars ?_ ?_
    · simp [querySet]
    · simp [querySet]
  · cases h
  · cases h

/-- An address with a rooted path is printable if what stands in front of its query is. -/
theorem isPrintable_withTail {scheme path : String} {authority : Option Authority} {cs : List Char}
    (hscheme : scheme.toList ≠ [] ∧ AllTight scheme.toList)
    (hauthority : ∀ a, authority = some a → AllTight a.user.toList ∧ AllTight a.host.toList)
    (hpath : AllTight path.toList) : (withTail scheme authority (.rooted path) cs).IsPrintable where
  scheme := hscheme
  authority := hauthority
  rooted t ht := by
    cases ht
    exact hpath
  whole t ht := by cases ht
  query q hq := allTight_readTail hq

theorem allTight_pathBehind (scheme : String) (cs : List Char) :
    AllTight (pathBehind scheme cs).toList := by
  have hempty : AllTight "".toList := by decide
  have hslash : AllTight "/".toList := by decide
  unfold pathBehind
  dsimp only
  split
  · split
    · exact hslash
    · exact hempty
  · split
    · exact allTight_readOnto hslash
    · split
      · exact hempty
      · exact allTight_readOnto hslash

theorem isPrintable_readBehindSlashes? {scheme : String} {cs : List Char} {u : Uri}
    (hscheme : scheme.toList ≠ [] ∧ AllTight scheme.toList)
    (h : readBehindSlashes? scheme cs = some u) : u.IsPrintable := by
  obtain ⟨⟨a, rest⟩, hauthority, h⟩ := Option.bind_eq_some_iff.mp h
  cases h
  refine isPrintable_withTail hscheme ?_ (allTight_pathBehind scheme rest)
  intro a' ha'
  cases ha'
  exact allTight_readAuthority? hauthority

theorem isPrintable_readFile? {cs : List Char} {u : Uri} (h : readFile? none cs = some u) :
    u.IsPrintable := by
  have hempty : AllTight "".toList := by decide
  have hslash : AllTight "/".toList := by decide
  have hfile : "file".toList ≠ [] ∧ AllTight "file".toList := by decide
  have honto : ∀ (host start : String) (body : List Char), AllTight host.toList →
      AllTight start.toList →
        (withTail "file" (fileAuthority host) (.rooted (readOnto "file" start body))
          body).IsPrintable := by
    intro host start body hhost hstart
    refine isPrintable_withTail hfile ?_ (allTight_readOnto hstart)
    intro a ha
    cases ha
    exact ⟨hempty, hhost⟩
  have hsingle : (readFile?.singleSlash none cs).IsPrintable := honto "" "" cs hempty hempty
  -- a drive letter at the head of the path takes the host away
  have hdrive : ∀ (host : String) (path : List Char) (drops : Bool), AllTight host.toList →
      (if drops = true then
        { withTail "file" (fileAuthority host) (.rooted (readOnto "file" "/" path)) path with
          authority := fileAuthority "" }
      else withTail "file" (fileAuthority host) (.rooted (readOnto "file" "/" path))
        path).IsPrintable := by
    intro host path drops hhost
    cases drops with
    | true => exact honto "" "/" path hempty hslash
    | false => exact honto host "/" path hhost hslash
  unfold readFile? at h
  dsimp only at h
  split at h
  · rename_i a rest
    split at h
    · split at h
      · split at h
        · split at h
          · cases h
            exact honto _ _ _ hempty hslash
          · split at h
            · cases h
              exact honto _ _ _ hempty hslash
            · obtain ⟨host, hhost, h⟩ := Option.bind_eq_some_iff.mp h
              split at h
              · cases h
                exact honto _ _ _ hempty hslash
              · obtain rfl := Option.some.inj h
                exact hdrive _ _ _ (allTight_host? hhost)
        · cases h
          exact hsingle
      · cases h
        exact hsingle
    · cases h
      exact honto _ _ _ hempty hslash
  · cases h
    exact honto _ _ _ hempty hslash

theorem isPrintable_readBehindScheme? {scheme : String} {cs : List Char} {u : Uri}
    (hscheme : scheme.toList ≠ [] ∧ AllTight scheme.toList)
    (h : readBehindScheme? none scheme cs = some u) : u.IsPrintable := by
  unfold readBehindScheme? at h
  split at h
  · exact isPrintable_readFile? h
  · split at h
    · exact isPrintable_readBehindSlashes? hscheme h
    · split at h
      · exact isPrintable_readBehindSlashes? hscheme h
      · cases h
        refine isPrintable_withTail hscheme nofun (allTight_readOnto ?_)
        decide
      · cases h
        constructor
        · exact hscheme
        · nofun
        · nofun
        · intro t ht
          cases ht
          intro c hc
          rw [String.toList_ofList] at hc
          rcases mem_encodeChars hc with htight | ⟨hmem, -, rfl | rfl⟩
          · exact Or.inl htight
          · exact Or.inr rfl
          · exact absurd (List.all_eq_true.mp List.all_takeWhile _ hmem) (by decide)
        · intro q hq
          exact allTight_readTail hq

theorem allTight_takeScheme {cs rest : List Char} {scheme : String}
    (h : takeScheme cs = some (scheme, rest)) :
    scheme.toList ≠ [] ∧ AllTight scheme.toList := by
  unfold takeScheme at h
  dsimp only at h
  split at h
  · rename_i c rest' hhead hcolon
    split at h
    · rename_i hletter
      cases h
      rw [String.toList_ofList]
      constructor
      · cases cs with
        | nil => cases hhead
        | cons d ds =>
            obtain rfl := Option.some.inj hhead
            have hpart : (d.isAlphanum || d == '+' || d == '-' || d == '.') = true := by
              simp [Char.isAlphanum, hletter]
            rw [List.takeWhile_cons, if_pos hpart]
            exact List.cons_ne_nil _ _
      · intro c hc
        obtain ⟨d, hd, rfl⟩ := List.mem_map.mp hc
        have hpart := List.all_eq_true.mp List.all_takeWhile d hd
        exact isTight_toLower hpart
    · cases h
  · cases h

/-- **An address that is read is printable**, whatever it was read from. -/
theorem isPrintable_read? {text : String} {u : Uri} (h : read? text = some u) :
    u.IsPrintable := by
  unfold read? readAgainst? at h
  dsimp only at h
  split at h
  · rename_i scheme rest hscheme
    exact isPrintable_readBehindScheme? (allTight_takeScheme hscheme) h
  · cases h

/-! ## §8  Texts -/

/-- Whether a text starts with a tight character and ends with one. -/
def EndsTight (cs : List Char) : Prop :=
  (∃ c, cs.head? = some c ∧ isTight c = true) ∧ ∃ c, cs.getLast? = some c ∧ isTight c = true

theorem EndsTight.append {cs ds : List Char} (h : EndsTight cs)
    (hds : ∀ c, ds.getLast? = some c → isTight c = true) : EndsTight (cs ++ ds) := by
  obtain ⟨⟨c, hc, htight⟩, ⟨d, hd, htight'⟩⟩ := h
  refine ⟨⟨c, by rw [List.head?_append, hc]; rfl, htight⟩, ?_⟩
  rw [List.getLast?_append]
  cases hlast : ds.getLast? with
  | none => exact ⟨d, hd, htight'⟩
  | some e => exact ⟨e, rfl, hds e hlast⟩

theorem AllTight.getLast? {cs : List Char} (h : AllTight cs) :
    ∀ c, cs.getLast? = some c → isTight c = true :=
  fun c hc => h c (List.mem_of_getLast? hc)

theorem allTight_authority {a : Authority}
    (h : AllTight a.user.toList ∧ AllTight a.host.toList) : AllTight a.text.toList := by
  have hat : AllTight "@".toList := by decide
  have hcolon : AllTight ":".toList := by decide
  unfold Authority.text
  rw [String.toList_append, String.toList_append]
  refine AllTight.append (AllTight.append ?_ h.2) ?_
  · split
    · exact allTight_nil
    · rw [String.toList_append]
      exact AllTight.append h.1 hat
  · split
    · rw [String.toList_append]
      exact AllTight.append hcolon (allTight_ofNat _)
    · exact allTight_nil

def queryText (query : Option String) : String :=
  match query with
  | some q => "?" ++ q
  | none => ""

def authorityText (authority : Option Authority) (path : String) : String :=
  match authority with
  | some a => "//" ++ a.text
  | none => if path.startsWith "//" then "/." else ""

/-- An address ends as its path and query do, and starts with its scheme. -/
theorem IsPrintable.endsTight_text {u : Uri} (h : u.IsPrintable) (hfragment : u.fragment = none)
    (hend : ∀ c, (u.path.text.toList ++ (queryText u.query).toList).getLast? = some c →
      isTight c = true) : EndsTight u.text.toList := by
  have hscheme : EndsTight (u.scheme ++ ":").toList := by
    rw [String.toList_append]
    refine ⟨?_, ⟨':', by simp, by decide⟩⟩
    cases hcs : u.scheme.toList with
    | nil => exact absurd hcs h.scheme.1
    | cons c cs => exact ⟨c, rfl, h.scheme.2 c (by rw [hcs]; exact List.mem_cons_self)⟩
  have hauthority : AllTight (authorityText u.authority u.path.text).toList := by
    have hslashes : AllTight "//".toList := by decide
    have hdot : AllTight "/.".toList := by decide
    unfold authorityText
    split
    · rename_i a ha
      rw [String.toList_append]
      exact AllTight.append hslashes (allTight_authority (h.authority a ha))
    · split
      · exact hdot
      · exact allTight_nil
  have htext : u.text = u.scheme ++ ":" ++ authorityText u.authority u.path.text ++ u.path.text ++
      queryText u.query := by
    unfold text authorityText queryText
    rw [hfragment]
    exact String.append_empty
  rw [htext, String.toList_append, String.toList_append, String.toList_append, List.append_assoc]
  exact (hscheme.append hauthority.getLast?).append hend

theorem IsPrintable.isTight_last {u : Uri} (h : u.IsPrintable) {cs : List Char}
    (hcs : u.query = none → ∀ c, cs.getLast? = some c → isTight c = true) {c : Char}
    (hc : (cs ++ (queryText u.query).toList).getLast? = some c) : isTight c = true := by
  cases hquery : u.query with
  | none =>
      rw [hquery, queryText, String.toList_empty, List.append_nil] at hc
      exact hcs hquery c hc
  | some q =>
      have hmark : AllTight "?".toList := by decide
      have hall : AllTight (queryText (some q)).toList := by
        rw [queryText, String.toList_append]
        exact AllTight.append hmark (h.query q hquery)
      rw [hquery, List.getLast?_append] at hc
      cases hlast : (queryText (some q)).toList.getLast? with
      | none =>
          rw [List.getLast?_eq_none_iff, queryText, String.toList_append] at hlast
          cases hlast
      | some d =>
          rw [hlast] at hc
          obtain rfl := Option.some.inj hc
          exact hall.getLast? d hlast

/-- Only from a path that is kept whole and stands at the end, more is removed than the
fragment. -/
theorem withoutFragment_cases (u : Uri) : u.withoutFragment = { u with fragment := none } ∧
      ((∃ t, u.path = .rooted t) ∨ u.query ≠ none) ∨
    ∃ t, u.path = .whole t ∧ u.query = none ∧ u.withoutFragment = { u with
      fragment := none
      path := .whole (String.ofList (Text.dropEndWhile (· == ' ') t.toList)) } := by
  obtain ⟨scheme, authority, path, query, fragment⟩ := u
  cases path with
  | rooted t => exact .inl ⟨rfl, .inl ⟨t, rfl⟩⟩
  | whole t =>
      cases query with
      | some q => exact .inl ⟨rfl, .inr nofun⟩
      | none => exact .inr ⟨t, rfl, rfl, rfl⟩

/-- **The text of an address without its fragment** starts and ends with a tight character. -/
theorem endsTight_text_of_read? {text : String} {u : Uri} (h : read? text = some u) :
    EndsTight u.withoutFragment.text.toList := by
  have hprintable := isPrintable_read? h
  rcases withoutFragment_cases u with ⟨heq, hend⟩ | ⟨t, hpath, hquery, heq⟩
  · have hprintable' : IsPrintable { u with fragment := none } := { hprintable with }
    rw [heq]
    refine hprintable'.endsTight_text rfl fun c hc => hprintable'.isTight_last ?_ hc
    intro hquery
    obtain ⟨t, hpath⟩ := hend.resolve_right (absurd hquery)
    rw [show ({ u with fragment := none } : Uri).path = .rooted t from hpath]
    exact (hprintable.rooted t hpath).getLast?
  · have hkept : ∀ c ∈ Text.dropEndWhile (· == ' ') t.toList, isTight c = true ∨ c = ' ' :=
      fun c hc => hprintable.whole t hpath c ((Text.dropEndWhile_prefix (· == ' ') t.toList).subset hc)
    have hprintable' : IsPrintable { u with
        fragment := none
        path := .whole (String.ofList (Text.dropEndWhile (· == ' ') t.toList)) } := by
      refine { hprintable with rooted := nofun, whole := ?_ }
      intro t' ht' c hc
      cases ht'
      rw [String.toList_ofList] at hc
      exact hkept c hc
    rw [heq]
    refine hprintable'.endsTight_text rfl fun c hc => hprintable'.isTight_last ?_ hc
    intro _ c hc
    rw [Path.text, String.toList_ofList] at hc
    rcases hkept c (List.mem_of_getLast? hc) with htight | hspace
    · exact htight
    · have hcut := Text.getLast?_dropEndWhile hc
      rw [hspace] at hcut
      cases hcut

end ReplySchema.Uri
