import ReplySchema.Proofs.Text.Ends
import ReplySchema.Response.Declaration

/-! # What media types ignore

Content types are the same media type if they differ only in the case of letters, in blanks at the
ends and in parameters: none of these is left by `normalize`, whichever of them comes first.
-/

set_option autoImplicit false

namespace ReplySchema.MediaType

/-! ## §1  Small letters -/

/-- Letters are as much blank, and as much a mark, as the small letters that they become. -/
theorem toLower_laws (c : Char) : c.toLower.toLower = c.toLower ∧
    Text.isBlank c.toLower = Text.isBlank c ∧ (c.toLower = ';' ↔ c = ';') := by
  have hascii : ∀ n < 0x80, (Char.ofNat n).toLower.toLower = (Char.ofNat n).toLower ∧
      Text.isBlank (Char.ofNat n).toLower = Text.isBlank (Char.ofNat n) ∧
      ((Char.ofNat n).toLower = ';' ↔ Char.ofNat n = ';') := by decide
  by_cases hc : c.toNat < 0x80
  · have h := hascii c.toNat hc
    rwa [Char.ofNat_toNat] at h
  · have hself : c.toLower = c := by
      unfold Char.toLower
      refine dif_neg fun hupper => hc ?_
      have hle : c.val.toNat ≤ 90 := UInt32.le_iff_toNat_le.mp hupper.2
      have hval : c.toNat = c.val.toNat := rfl
      omega
    rw [hself, hself]
    exact ⟨rfl, rfl, Iff.rfl⟩

theorem cutAt_map_toLower (cs : List Char) :
    (Text.cutAt ';' (cs.map Char.toLower)).1 = (Text.cutAt ';' cs).1.map Char.toLower := by
  induction cs with
  | nil => rfl
  | cons c rest ih =>
      obtain ⟨-, -, hmark⟩ := toLower_laws c
      rw [List.map_cons, Text.cutAt, Text.cutAt]
      by_cases hc : c = ';'
      · rw [if_pos (hmark.mpr hc), if_pos hc]
        rfl
      · rw [if_neg (fun h => hc (hmark.mp h)), if_neg hc, List.map_cons, ih]

theorem stripWhile_map_toLower (cs : List Char) :
    Text.stripWhile Text.isBlank (cs.map Char.toLower) =
      (Text.stripWhile Text.isBlank cs).map Char.toLower := by
  have hblank : Text.isBlank ∘ Char.toLower = Text.isBlank :=
    funext fun c => (toLower_laws c).2.1
  simp only [Text.stripWhile, Text.dropEndWhile, List.dropWhile_map, ← List.map_reverse, hblank]

theorem normalize_lower (contentType : String) :
    normalize (Text.lower contentType) = normalize contentType := by
  have hlower : Char.toLower ∘ Char.toLower = Char.toLower :=
    funext fun c => (toLower_laws c).1
  simp only [normalize, Text.lower, Text.trim, String.toList_ofList, cutAt_map_toLower,
    stripWhile_map_toLower, List.map_map, hlower]

/-! ## §2  Parameters -/

theorem normalize_parameters (contentType parameters : String) :
    normalize (contentType ++ ";" ++ parameters) = normalize contentType := by
  have hcut : ∀ cs rest, (Text.cutAt ';' (cs ++ ';' :: rest)).1 = (Text.cutAt ';' cs).1 := by
    intro cs rest
    induction cs with
    | nil => rfl
    | cons c cs ih =>
        rw [List.cons_append, Text.cutAt, Text.cutAt]
        by_cases hc : c = ';'
        · rw [if_pos hc, if_pos hc]
        · rw [if_neg hc, if_neg hc, ih]
  have hlist : (contentType ++ ";" ++ parameters).toList =
      contentType.toList ++ ';' :: parameters.toList := by
    simp [String.toList_append]
  rw [normalize, normalize, hlist, hcut]

/-! ## §3  Blanks -/

theorem normalize_trim (contentType : String) :
    normalize (Text.trim contentType) = normalize contentType := by
  have hmark : ∀ c, Text.isBlank c = true → decide (c ≠ ';') = true := by
    intro c hblank
    rw [decide_eq_true_eq]
    rintro rfl
    exact absurd hblank (by decide)
  have hself : (Text.trim contentType).toList.dropWhile Text.isBlank =
      (Text.trim contentType).toList :=
    Text.dropWhile_eq_self fun _ => Text.head?_trim
  have hends : Text.stripWhile Text.isBlank
      ((Text.trim contentType).toList.takeWhile fun d => decide (d ≠ ';')) =
      Text.stripWhile Text.isBlank (contentType.toList.takeWhile fun d => decide (d ≠ ';')) := by
    rw [Text.stripWhile, ← Text.takeWhile_dropWhile hmark, hself, Text.trim, String.toList_ofList,
      Text.stripWhile, Text.dropEndWhile_takeWhile hmark, Text.takeWhile_dropWhile hmark]
    rfl
  have htrim : ∀ cs, Text.trim (String.ofList cs) =
      String.ofList (Text.stripWhile Text.isBlank cs) := fun cs => by
    rw [Text.trim, String.toList_ofList]
  rw [normalize, normalize, Text.cutAt_fst, Text.cutAt_fst, htrim, htrim, hends]

/-- Content types that differ in the case of letters, in parameters, or in blanks at the ends. -/
inductive Alike : String → String → Prop where
  | letters (contentType : String) : Alike (Text.lower contentType) contentType
  | parameters (contentType parameters : String) :
      Alike (contentType ++ ";" ++ parameters) contentType
  | blanks (contentType : String) : Alike (Text.trim contentType) contentType

/-- **Content types that are alike are one media type.** -/
theorem normalize_of_alike {contentType contentType' : String}
    (h : Alike contentType contentType') :
    normalize contentType = normalize contentType' := by
  cases h with
  | letters => exact normalize_lower _
  | parameters => exact normalize_parameters _ _
  | blanks => exact normalize_trim _

end ReplySchema.MediaType
