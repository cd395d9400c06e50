import Mathlib.Tactic.Tauto
import StylePrune.Css.Property.Background
import StylePrune.Css.Property.Layout
import StylePrune.Proofs.Css.Values

/-!
# Properties of boxes carry their references

Layout, borders, backgrounds and masks.  Each layer has one image, which is printed unless it
is none.
-/

namespace StylePrune

namespace Css

namespace Reader

open scoped List
open Component (targetsOf)

/-! ## Layout -/

theorem silent_composedKind : Silent composedKind := by
  refine (Silent.anyOrder ?_).bind fun parts => ?_
  · simp only [List.forall_mem_cons]
    exact ⟨silent_words _, silent_words _, silent_words _, List.forall_mem_nil _⟩
  · split
    · exact .ite .fail .pure
    · exact .fail

theorem silent_display : Silent display :=
  .orElse silent_composedKind (.orElse (silent_words _) .fail)

theorem silent_fitContent : Silent fitContent := by
  refine (carries_functionNamed (by decide)).bind fun items => ?_
  exact (silent_lengthPercentageText.inside items).bind fun _ => .pure

theorem silent_size (missing : String) : Silent (size missing) :=
  .orElse (silent_words _) (.orElse silent_fitContent (.orElse silent_lengthPercentageText .fail))

theorem silent_proportion : Silent proportion := by
  refine silent_number.bind fun a => (silent_delim '/').optional.bind fun found => ?_
  split
  · exact .pure
  · exact silent_number.bind fun _ => .pure

theorem silent_flexFlow : Silent flexFlow := by
  have hreaders : ∀ r ∈ [words flexDirections, words flexWraps], Silent r := by
    simp only [List.forall_mem_cons]
    exact ⟨silent_words _, silent_words _, List.forall_mem_nil _⟩
  exact (Silent.fillSlots hreaders 2).bind fun _ => .pure

theorem silent_flexParts (numbers : Option (Rat × Option Rat)) (basis : Option (Option Measure))
    (fuel : Nat) : Silent (flexParts numbers basis fuel) := by
  induction fuel generalizing numbers basis with
  | zero => exact .fail
  | succ fuel ih =>
      rw [flexParts]
      have hnumbers : Silent (do
          let grow ← number
          return (grow, ← optional number)) :=
        silent_number.bind fun _ => silent_number.optional.bind fun _ => .pure
      have hbasis : Silent (firstOf [do
          word "auto"
          pure none,
          do return some (← lengthPercentage)]) :=
        .orElse ((silent_word _).bind fun _ => .pure)
          (.orElse (silent_lengthPercentage.bind fun _ => .pure) .fail)
      refine .either .pure hnumbers.optional fun found => ?_
      cases found with
      | some pair => exact ih _ _
      | none =>
          refine .either .pure hbasis.optional fun found => ?_
          cases found with
          | some b => exact ih _ _
          | none => exact .pure

theorem silent_flex : Silent flex :=
  .orElse ((silent_word _).bind fun _ => .pure)
    (.orElse ((silent_flexParts _ _ _).bind fun _ => .pure) .fail)

theorem silent_gridAreas : Silent gridAreas :=
  silent_string.many.bind fun _ => .ite .fail .pure

theorem silent_gridAutoFlow : Silent gridAutoFlow := by
  refine (Silent.anyOrder ?_).bind fun parts => ?_
  · simp only [List.forall_mem_cons]
    exact ⟨silent_words _, silent_words _, List.forall_mem_nil _⟩
  · split
    · exact .pure
    · exact .pure
    · exact .pure
    · exact .fail

/-! ## Borders -/

theorem silent_lineStyle : Silent lineStyle :=
  silent_words _

theorem silent_lineWidth : Silent lineWidth :=
  .orElse silent_lengthText (.orElse (silent_words _) .fail)

theorem carries_border {style : Reader Printed} (h : Silent style) :
    Carries [] Printed.targets (border style) := by
  refine .shorthand ?_
  simp only [List.forall_mem_cons]
  exact ⟨silent_lineWidth.carries, h.carries, silent_colorText.carries, List.forall_mem_nil _⟩

theorem silent_outlineStyle : Silent outlineStyle :=
  .orElse (silent_words _) (.orElse silent_lineStyle .fail)

theorem Silent.afterSlash {r : Reader Printed} (h : Silent r) : Silent (afterSlash r) :=
  Silent.optional ((silent_delim '/').bind fun _ => h)

theorem silent_radii : Silent radii := by
  refine silent_lengthPercentageText.sides.bind fun across => ?_
  refine silent_lengthPercentageText.sides.afterSlash.bind fun down => ?_
  split
  · exact .pure
  · exact .pure

theorem silent_amountText : Silent (firstOf [numberText, measureText percentage]) :=
  .orElse silent_numberText (.orElse (silent_measureText silent_percentage) .fail)

theorem silent_imageSlice : Silent imageSlice :=
  (silent_word _).optional.bind fun _ => silent_amountText.sides.bind fun _ =>
    (silent_word _).optional.bind fun _ => .ite .fail .pure

theorem silent_imageWidth : Silent imageWidth :=
  Silent.sides (.orElse silent_numberText
    (.orElse silent_lengthPercentageText (.orElse (silent_words _) .fail)))

theorem silent_imageOutset : Silent imageOutset :=
  Silent.sides (.orElse silent_numberText (.orElse silent_lengthText .fail))

theorem silent_imageRepeat : Silent imageRepeat :=
  (silent_words _).pair

theorem silent_imageEdges : Silent imageEdges := by
  refine silent_imageSlice.bind fun slice => (silent_delim '/').optional.bind fun found => ?_
  cases found with
  | none => exact Carries.pure.bind fun _ => .pure
  | some _ =>
      refine silent_imageWidth.optional.bind fun width => ?_
      refine silent_imageOutset.afterSlash.bind fun outset => .when .fail fun _ => ?_
      exact Carries.pure.bind fun _ => .pure

theorem inOption_filter (p : Option Printed) (usual : String) :
    inOption Printed.targets (p.filter (· ≠ Printed.ofText usual)) =
      inOption Printed.targets p := by
  cases p with
  | none => rfl
  | some p =>
      by_cases hp : p = Printed.ofText usual
      · subst hp
        simp [Option.filter]
      · simp [Option.filter, hp]

theorem carries_borderImage : Carries [] Printed.targets borderImage := by
  have hreaders : ∀ r ∈ [image, imageEdges, imageRepeat], Carries [] Printed.targets r := by
    simp only [List.forall_mem_cons]
    exact ⟨carries_image, silent_imageEdges.carries, silent_imageRepeat.carries,
      List.forall_mem_nil _⟩
  refine (Carries.anyOrder hreaders).bind fun parts => ?_
  split
  · rename_i source edges fill
    have hshown : [source, edges, fill].flatMap (inOption Printed.targets) =
        ([source.filter (· ≠ Printed.ofText "none"), edges.filter (· ≠ Printed.ofText "100%"),
          fill.filter (· ≠ Printed.ofText "stretch")].filterMap id).flatMap Printed.targets := by
      rw [flatMap_filterMap]
      simp only [List.flatMap_cons, id, inOption_filter]
    rw [hshown]
    dsimp only
    split
    · rename_i hnone
      refine .pure_of_subperm ?_
      simp only [Option.isNone_iff_eq_none] at hnone
      rw [hnone.1, hnone.2.1, hnone.2.2]
      exact List.nil_subperm
    · refine .pure_of_subperm ?_
      rw [Printed.targets_joinWith]
  · exact .fail

/-! ## Layers -/

theorem silent_layerSize : Silent layerSize := by
  refine .orElse ?_ (.orElse (silent_words _) .fail)
  refine (silent_lengthOr _).bind fun width => (silent_lengthOr _).optional.bind fun height => ?_
  split
  · exact .pure
  · exact .pure

theorem silent_repeatWord : Silent repeatWord :=
  silent_words _

theorem silent_layerRepeat : Silent layerRepeat :=
  .orElse (silent_words _)
    (.orElse (silent_repeatWord.bind fun _ => silent_repeatWord.optional.bind fun _ => .pure) .fail)

theorem silent_layerAttachment : Silent layerAttachment :=
  silent_words _

theorem silent_backgroundOrigin : Silent backgroundOrigin :=
  silent_words _

theorem silent_backgroundClip : Silent backgroundClip :=
  silent_words _

def inLayer (layer : Layer) : List String :=
  inOption Printed.targets layer.image

section

variable {layer : Layer}

/-- A part without references leaves the image of the layer as it is. -/
theorem carries_layerPart? {α : Type} (old : Option α) {r : Reader α} (h : Silent r)
    {put : α → Layer} (hput : ∀ a, (put a).image = layer.image) :
    Carries (inLayer layer) inLayer (layerPart? old r put) := by
  refine .ite .fail (h.bind fun a => .pure_of_subperm ?_)
  rw [inLayer, inLayer, hput]

/-- The image is read where there is none yet. -/
theorem carries_layerImage :
    Carries (inLayer layer) inLayer
      (layerPart? layer.image image fun p => { layer with image := some p }) := by
  unfold layerPart?
  split
  · exact .fail
  · rename_i hnone
    have hempty : inLayer layer = [] := by
      rw [inLayer, Option.not_isSome_iff_eq_none.mp hnone]
      rfl
    rw [hempty]
    exact carries_image.bind fun p => .pure_of_subperm (List.Subperm.refl _)

theorem carries_layerPlace : Carries (inLayer layer) inLayer (layerPlace layer) := by
  refine .when .fail fun _ => silent_position.bind fun place => ?_
  exact silent_layerSize.afterSlash.bind fun size => .pure_of_subperm (List.Subperm.refl _)

theorem carries_layerParts {step : Layer → Reader Layer}
    (h : ∀ layer, Carries (inLayer layer) inLayer (step layer)) (fuel : Nat) :
    Carries (inLayer layer) inLayer (layerParts step layer fuel) := by
  induction fuel generalizing layer with
  | zero => exact .pure_of_subperm (List.Subperm.refl _)
  | succ fuel ih =>
      refine (h layer).optional_of_held.bind fun found => ?_
      cases found with
      | none => exact .pure_of_subperm (List.Subperm.refl _)
      | some next => exact ih

end

theorem carries_backgroundStep (layer : Layer) :
    Carries (inLayer layer) inLayer (backgroundStep layer) :=
  .orElse (carries_layerPart? _ silent_colorText fun _ => rfl)
    (.orElse carries_layerPlace
      (.orElse carries_layerImage
        (.orElse (carries_layerPart? _ silent_layerRepeat fun _ => rfl)
          (.orElse (carries_layerPart? _ silent_layerAttachment fun _ => rfl)
            (.orElse (carries_layerPart? _ silent_backgroundOrigin fun _ => rfl)
              (.orElse (carries_layerPart? _ silent_backgroundClip fun _ => rfl) .fail))))))

theorem carries_maskStep (layer : Layer) :
    Carries (inLayer layer) inLayer (maskStep layer) :=
  .orElse carries_layerImage
    (.orElse carries_layerPlace
      (.orElse (carries_layerPart? _ silent_layerRepeat fun _ => rfl)
        (.orElse (carries_layerPart? _ (silent_words _) fun _ => rfl)
          (.orElse (carries_layerPart? _ (silent_words _) fun _ => rfl)
            (.orElse (carries_layerPart? _ (silent_words _) fun _ => rfl)
              (.orElse (carries_layerPart? _ (silent_words _) fun _ => rfl) .fail))))))

theorem targets_unusual (part : Option Printed) (usual : String) :
    (Layer.unusual part usual).flatMap Printed.targets = inOption Printed.targets part := by
  rw [← inOption_filter part usual, Layer.unusual]
  cases part.filter (· ≠ Printed.ofText usual) with
  | none => rfl
  | some p => simp

theorem inLayer_subperm_background (layer : Layer) :
    inLayer layer <+~ Printed.targets layer.background := by
  rw [Layer.background, Printed.targets_joinWith]
  split
  · rename_i hempty
    have himage : Layer.unusual layer.image "none" = [] := by
      simp only [List.isEmpty_iff, List.append_eq_nil_iff] at hempty
      tauto
    rw [inLayer, ← targets_unusual layer.image "none", himage]
    exact List.nil_subperm
  · rw [inLayer, ← targets_unusual layer.image "none"]
    simp only [List.flatMap_append]
    iterate 4 refine subperm_append_of_subperm_left _ ?_
    exact (List.sublist_append_right _ _).subperm

theorem inLayer_subperm_maskText (layer : Layer) :
    inLayer layer <+~ Printed.targets (maskText layer) := by
  rw [maskText, Printed.targets_joinWith, List.cons_append, List.cons_append, List.cons_append,
    List.cons_append, List.flatMap_cons, inLayer]
  refine subperm_append_of_subperm_left _ ?_
  cases layer.image with
  | none => exact List.nil_subperm
  | some p => exact List.Subperm.refl _

theorem carries_background : Carries [] Printed.targets background := by
  have hparts : Carries (inLayer {}) inLayer (layerParts backgroundStep {} 8) :=
    carries_layerParts carries_backgroundStep 8
  exact hparts.bind fun layer => .pure_of_subperm (inLayer_subperm_background layer)

theorem carries_mask : Carries [] Printed.targets mask := by
  have hparts : Carries (inLayer {}) inLayer (layerParts maskStep {} 8) :=
    carries_layerParts carries_maskStep 8
  exact hparts.bind fun layer => .pure_of_subperm (inLayer_subperm_maskText layer)

end Reader

end Css

end StylePrune
