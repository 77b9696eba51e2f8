import ReplySchema.Proofs.Text.Ends
import ReplySchema.Scope.Tree

/-! # Prefixes one below the other

Slashes at the end of a prefix do not count, so all that counts of it is its *stem*.  A path puts a
segment behind the stem (`stem_joinChars`), and prefixes of one stem are the same for all that
comes below them (`join_congr`).

Hence an outermost prefix is told apart from none by every address below it, unless it is nothing
but slashes (`join_under_cons_iff`), and a prefix of slashes anywhere on the way is told apart from
none by no address (`join_foldl_slashes`).

Joining is putting segments one behind the other.  A lone slash puts nothing there, and where
nothing stands at all a slash is written (`joinChars_eq`); so it is associative (`joinChars_assoc`),
up to the blanks that are cut off a path.
-/

set_option autoImplicit false

namespace ReplySchema.Address

/-! ## §1  Stems -/

def stem (front : List Char) : List Char := Text.dropEndWhile (· == '/') front

def segment : List Char → List Char
  | [] => []
  | '/' :: rest => '/' :: rest
  | path => '/' :: path

theorem stem_nil : stem [] = [] := rfl

theorem stem_stem (front : List Char) : stem (stem front) = stem front :=
  Text.dropEndWhile_eq_self fun _ h => Text.getLast?_dropEndWhile (p := (· == '/')) h

theorem stem_eq_nil_iff {front : List Char} : stem front = [] ↔ ∀ c ∈ front, c = '/' := by
  constructor
  · intro h c hc
    exact beq_iff_eq.mp (Text.forall_of_dropEndWhile_eq_nil (p := (· == '/')) h c hc)
  · intro h
    unfold stem Text.dropEndWhile
    rw [List.reverse_eq_nil_iff, ← List.append_nil front.reverse,
      List.dropWhile_append_of_pos fun c hc => beq_iff_eq.mpr (h c (List.mem_reverse.mp hc))]
    rfl

/-- Behind a stem, only the slashes at the end of what follows are cut. -/
theorem stem_append {front : List Char} (hstem : stem front = front) (rest : List Char) :
    stem (front ++ rest) = front ++ stem rest := by
  unfold stem Text.dropEndWhile at hstem ⊢
  rw [List.reverse_append, List.dropWhile_append]
  split
  · next hempty => rw [hstem, List.isEmpty_iff.mp hempty, List.reverse_nil, List.append_nil]
  · rw [List.reverse_append, List.reverse_reverse]

theorem segment_cons (c : Char) (rest : List Char) :
    segment (c :: rest) = if c = '/' then '/' :: rest else '/' :: c :: rest := by
  by_cases hc : c = '/'
  · subst hc
    rfl
  · rw [if_neg hc]
    simp [segment, hc]

theorem stem_joinChars (front path : List Char) :
    stem (joinChars front path) = stem (stem front ++ segment path) := by
  have hstem : Text.dropEndWhile (· == '/') front = stem front := rfl
  have hagain : stem (stem front) = stem front := stem_stem front
  unfold joinChars
  rw [hstem]
  generalize stem front = before at hagain ⊢
  cases path with
  | nil =>
      rw [segment, List.append_nil]
      cases before <;> rfl
  | cons c rest =>
      rw [segment_cons]
      by_cases hc : c = '/'
      · subst hc
        rw [if_pos rfl]
        cases before with
        | nil => rfl
        | cons d more =>
            cases rest with
            | nil =>
                rw [stem_append hagain]
                exact hagain.trans (List.append_nil _).symm
            | cons => rfl
      · rw [if_neg hc]
        cases before <;> simp [hc]

theorem joinChars_congr {front front' : List Char} (h : stem front = stem front')
    (path : List Char) : joinChars front path = joinChars front' path := by
  unfold stem at h
  unfold joinChars
  rw [h]

theorem join_congr {front front' : String} (h : stem front.toList = stem front'.toList)
    (path : String) : join front path = join front' path := by
  unfold join
  rw [joinChars_congr h]

theorem stem_join (front path : String) : stem (join front path).toList =
    stem (stem front.toList ++ segment (Text.trim path).toList) := by
  unfold join
  rw [String.toList_ofList, stem_joinChars]

/-! ## §2  Prefixes below prefixes -/

/-- The prefix of a scope, from the paths of the scopes on the way to it, the outermost first. -/
def under (paths : List String) : String := paths.foldl join ""

theorem under_concat (paths : List String) (path : String) :
    under (paths ++ [path]) = join (under paths) path := by
  unfold under
  rw [List.foldl_append]
  rfl

theorem stem_foldl_join {outermost : List Char} (houtermost : stem outermost = outermost)
    (paths : List String) {front front' : String}
    (h : stem front'.toList = outermost ++ stem front.toList) :
    stem (paths.foldl join front').toList = outermost ++ stem (paths.foldl join front).toList := by
  induction paths generalizing front front' with
  | nil => exact h
  | cons path rest ih =>
      have hnext : stem (join front' path).toList = outermost ++ stem (join front path).toList := by
        rw [stem_join, stem_join, h, List.append_assoc, stem_append houtermost]
      exact ih hnext

theorem forall_segment_iff {path : List Char} :
    (∀ c ∈ segment path, c = '/') ↔ ∀ c ∈ path, c = '/' := by
  cases path with
  | nil => rfl
  | cons c rest =>
      rw [segment_cons]
      split
      · next hc => rw [hc]
      · rw [List.forall_mem_cons, and_iff_right rfl]

/-- **An outermost prefix changes every address below it**, unless it is nothing but slashes. -/
theorem join_under_cons_iff (outermost : String) (paths : List String) (path : String) :
    join (under (outermost :: paths)) path = join (under paths) path ↔
      ∀ c ∈ (Text.trim outermost).toList, c = '/' := by
  have hfirst : stem (join "" outermost).toList =
      stem (segment (Text.trim outermost).toList) ++ stem "".toList := by
    rw [stem_join, String.toList_empty, stem_nil, List.nil_append, List.append_nil]
  have hunder : stem (under (outermost :: paths)).toList =
      stem (segment (Text.trim outermost).toList) ++ stem (under paths).toList := by
    unfold under
    rw [List.foldl_cons]
    exact stem_foldl_join (stem_stem _) paths hfirst
  rw [← forall_segment_iff, ← stem_eq_nil_iff]
  constructor
  · intro h
    have hboth := congrArg (fun s : String => stem s.toList) h
    simp only [stem_join, hunder, List.append_assoc] at hboth
    rw [stem_append (stem_stem _)] at hboth
    exact List.append_left_eq_self.mp hboth
  · intro h
    refine join_congr ?_ path
    rw [hunder, h, List.nil_append]

/-- Prefixes of one stem are the same for what comes below the scopes below them. -/
theorem stem_foldl_join_congr {front front' : String}
    (h : stem front.toList = stem front'.toList) (paths : List String) :
    stem (paths.foldl join front).toList = stem (paths.foldl join front').toList := by
  cases paths with
  | nil => exact h
  | cons path rest => rw [List.foldl_cons, List.foldl_cons, join_congr h]

/-- **A prefix of slashes on the way changes no address.** -/
theorem join_foldl_slashes {scope : String} (hscope : ∀ c ∈ (Text.trim scope).toList, c = '/')
    (front : String) (inner : List String) (path : String) :
    join (inner.foldl join (join front scope)) path = join (inner.foldl join front) path := by
  have hstem : stem (join front scope).toList = stem front.toList := by
    rw [stem_join, stem_append (stem_stem _),
      stem_eq_nil_iff.mpr (forall_segment_iff.mpr hscope), List.append_nil]
  exact join_congr (stem_foldl_join_congr hstem inner) path

/-! ## §3  Paths below paths -/

/-- What a path adds to an address: a lone slash adds nothing. -/
def limb (path : List Char) : List Char := if path = ['/'] then [] else segment path

/-- An address of segments; where there are none it is a slash. -/
def written (segments : List Char) : List Char := if segments = [] then ['/'] else segments

theorem segment_eq_nil_iff {path : List Char} : segment path = [] ↔ path = [] := by
  cases path with
  | nil => simp [segment]
  | cons c rest =>
      rw [segment_cons]
      split <;> simp

theorem head?_segment {path : List Char} (h : path ≠ []) : (segment path).head? = some '/' := by
  cases path with
  | nil => exact absurd rfl h
  | cons c rest =>
      rw [segment_cons]
      split <;> rfl

theorem segment_eq_self {path : List Char} (h : path.head? = some '/') : segment path = path := by
  obtain ⟨rest, rfl⟩ := List.head?_eq_some_iff.mp h
  rfl

theorem segment_append {front : List Char} (h : front ≠ []) (rest : List Char) :
    segment (front ++ rest) = segment front ++ rest := by
  cases front with
  | nil => exact absurd rfl h
  | cons c more =>
      rw [List.cons_append, segment_cons, segment_cons]
      split <;> rfl

theorem stem_cons {path : List Char} (h : stem path ≠ []) (c : Char) :
    stem (c :: path) = c :: stem path := by
  unfold stem Text.dropEndWhile at h ⊢
  rw [List.reverse_cons, List.dropWhile_append, if_neg, List.reverse_append]
  · rfl
  · intro hempty
    exact h (by rw [List.isEmpty_iff.mp hempty, List.reverse_nil])

theorem stem_segment (path : List Char) : stem (segment path) = segment (stem path) := by
  by_cases h : stem path = []
  · rw [h, segment, stem_eq_nil_iff, forall_segment_iff, ← stem_eq_nil_iff, h]
  · cases path with
    | nil => exact absurd stem_nil h
    | cons c rest =>
        -- a stem that is not empty starts as its text does
        obtain ⟨cut, hcut⟩ := Text.dropEndWhile_prefix (· == '/') (c :: rest)
        obtain ⟨d, more, hstem⟩ := List.exists_cons_of_ne_nil h
        change stem (c :: rest) ++ cut = c :: rest at hcut
        rw [hstem, List.cons_append, List.cons.injEq] at hcut
        rw [hcut.1] at hstem
        rw [segment_cons, hstem, segment_cons]
        by_cases hc : c = '/'
        · rw [if_pos hc, if_pos hc, ← hc, hstem]
        · rw [if_neg hc, if_neg hc, stem_cons h, hstem]

theorem head?_limb {path : List Char} (h : limb path ≠ []) : (limb path).head? = some '/' := by
  unfold limb at h ⊢
  split
  · next hslash => simp [hslash] at h
  · next hslash =>
      rw [if_neg hslash] at h
      exact head?_segment fun hnil => h (segment_eq_nil_iff.mpr hnil)

theorem limb_ne_slash (path : List Char) : limb path ≠ ['/'] := by
  unfold limb
  split
  · exact List.cons_ne_nil _ _ ∘ Eq.symm
  · next hslash =>
      cases path with
      | nil => exact List.cons_ne_nil _ _ ∘ Eq.symm
      | cons c rest =>
          rw [segment_cons]
          split
          · next hc => exact hc ▸ hslash
          · simp

/-- **Joining puts segments one behind the other.** -/
theorem joinChars_eq (front path : List Char) :
    joinChars front path = written (stem front ++ limb path) := by
  have hstem : Text.dropEndWhile (· == '/') front = stem front := rfl
  unfold joinChars limb written
  rw [hstem]
  generalize stem front = before
  cases path with
  | nil => cases before <;> simp [segment]
  | cons c rest =>
      rw [segment_cons]
      by_cases hc : c = '/'
      · subst hc
        cases before <;> cases rest <;> simp
      · cases before <;> simp [hc]

theorem limb_joinChars (front path : List Char) :
    limb (joinChars front path) = segment (stem front) ++ limb path := by
  rw [joinChars_eq]
  by_cases hfront : stem front = []
  · rw [hfront, List.nil_append, segment, List.nil_append, written]
    split
    · next hpath => rw [hpath, limb, if_pos rfl]
    · next hpath => rw [limb, if_neg (limb_ne_slash path), segment_eq_self (head?_limb hpath)]
  · have hne : stem front ++ limb path ≠ [] := fun h => hfront (List.append_eq_nil_iff.mp h).1
    rw [written, if_neg hne, limb, if_neg, segment_append hfront]
    intro hslash
    -- the stem would be the lone slash, but a stem does not end with a slash
    rcases List.append_eq_singleton_iff.mp hslash with ⟨hnil, -⟩ | ⟨hlone, -⟩
    · exact hfront hnil
    · have hagain := stem_stem front
      rw [hlone] at hagain
      cases hagain

/-- **Joining is associative.** -/
theorem joinChars_assoc (front path below : List Char) :
    joinChars (joinChars front path) below = joinChars front (joinChars path below) := by
  rw [joinChars_eq _ below, joinChars_eq front (joinChars path below), limb_joinChars,
    stem_joinChars, stem_append (stem_stem front), stem_segment, List.append_assoc]

theorem getLast?_limb {path : List Char} {c : Char} (h : (limb path).getLast? = some c) :
    c = '/' ∨ path.getLast? = some c := by
  unfold limb at h
  split at h
  · cases h
  · cases path with
    | nil => cases h
    | cons d rest =>
        rw [segment_cons] at h
        split at h
        · next hd =>
            rw [← hd] at h
            exact Or.inr h
        · exact Or.inr h

/-- **A path without blanks is joined without blanks at its ends.** -/
theorem trim_join {front : String} (hfront : ∀ c ∈ front.toList, Text.isBlank c = false)
    (path : String) : Text.trim (join front path) = join front path := by
  have hslash : Text.isBlank '/' = false := by decide
  have hstem : ∀ c ∈ stem front.toList, Text.isBlank c = false := fun c hc =>
    hfront c ((Text.dropEndWhile_prefix (· == '/') front.toList).subset hc)
  apply Text.trim_eq_self <;> intro c hc <;>
    rw [join, String.toList_ofList, joinChars_eq, written] at hc
  · split at hc
    · cases hc
      exact hslash
    · rw [List.head?_append] at hc
      rcases Option.or_eq_some_iff.mp hc with hc | ⟨-, hc⟩
      · exact hstem c (List.mem_of_head? hc)
      · have hlimb : limb (Text.trim path).toList ≠ [] := by
          intro hnil
          rw [hnil] at hc
          cases hc
        rw [head?_limb hlimb] at hc
        cases hc
        exact hslash
  · split at hc
    · cases hc
      exact hslash
    · rw [List.getLast?_append] at hc
      rcases Option.or_eq_some_iff.mp hc with hc | ⟨-, hc⟩
      · rcases getLast?_limb hc with rfl | hc
        · exact hslash
        · exact Text.getLast?_trim hc
      · exact hstem c (List.mem_of_getLast? hc)

/-- **A prefix below a prefix is a prefix**: it does not matter which of two joints is made first,
if there are no blanks in the path between them. -/
theorem join_join (front : String) {path : String}
    (hpath : ∀ c ∈ path.toList, Text.isBlank c = false) (below : String) :
    join (join front path) below = join front (join path below) := by
  have htrim : Text.trim path = path :=
    Text.trim_eq_self (fun c hc => hpath c (List.mem_of_head? hc)) fun c hc =>
      hpath c (List.mem_of_getLast? hc)
  calc join (join front path) below
      = String.ofList
          (joinChars (joinChars front.toList path.toList) (Text.trim below).toList) := by
        unfold join
        rw [htrim, String.toList_ofList]
    _ = String.ofList
          (joinChars front.toList (joinChars path.toList (Text.trim below).toList)) := by
        rw [joinChars_assoc]
    _ = join front (join path below) := by
        rw [join.eq_def front, trim_join hpath, join, String.toList_ofList]

/-! ## §4  Addresses start with a slash -/

/-- Whether an address is that of the outermost prefix or starts with a slash. -/
def IsRooted (address : String) : Prop := address = "" ∨ address.toList.head? = some '/'

/-- **What is joined to a rooted prefix starts with a slash.** -/
theorem head?_join {front : String} (hfront : IsRooted front) (path : String) :
    (join front path).toList.head? = some '/' := by
  rw [join, String.toList_ofList, joinChars_eq, written]
  split
  · rfl
  · next hne =>
      rw [List.head?_append]
      cases hstem : stem front.toList with
      | nil =>
          rw [hstem, List.nil_append] at hne
          exact head?_limb hne
      | cons c rest =>
          -- the prefix is not empty, and its stem starts as it does
          obtain ⟨cut, hcut⟩ := Text.dropEndWhile_prefix (· == '/') front.toList
          change stem front.toList ++ cut = front.toList at hcut
          rcases hfront with rfl | hhead
          · cases hstem
          · rw [← hcut, hstem] at hhead
            exact hhead

theorem isRooted_foldl_join {front : String} (hfront : IsRooted front) (paths : List String) :
    IsRooted (paths.foldl join front) := by
  induction paths generalizing front with
  | nil => exact hfront
  | cons path rest ih => exact ih (Or.inr (head?_join hfront path))

end ReplySchema.Address
