import StylePrune.Css.Declaration
import StylePrune.Proofs.Css.Property.Box
import StylePrune.Proofs.Css.Property.Motion
import StylePrune.Proofs.Css.Property.Text
import StylePrune.Proofs.Css.Verbatim

/-!
# Declarations carry their references

A value that is understood and one that is kept as it is have all references of the source, and
so has a block of declarations.
-/

namespace StylePrune

namespace Css

open scoped List
open Component (targetsOf)
open Reader

namespace Property

/-- The values of the group carry their references. -/
abbrev CarriesValue (g : PropertyGroup) : Prop :=
  Carries [] Printed.targets g.value

theorem carries_words (ws : List String) : Carries [] Printed.targets (words ws) :=
  (silent_words ws).carries

theorem carriesValue_layoutGroups : ∀ g ∈ layoutGroups, CarriesValue g := by
  have hwords := carries_words
  have hpair : ∀ ws, Carries [] Printed.targets (pair (words ws)) := fun ws =>
    (silent_words ws).pair.carries
  simp only [layoutGroups, List.forall_mem_cons]
  exact ⟨silent_display.carries, hwords _, hwords _, hwords _, (silent_size _).carries,
    (silent_size _).carries,
    (Silent.inOrder (by
      simp only [List.forall_mem_cons]
      exact ⟨silent_words _, silent_proportion, List.forall_mem_nil _⟩)).carries,
    hpair _, hwords _, hwords _, (silent_lengthOr _).carries, (silent_lengthOr _).pair.carries,
    (silent_lengthOr _).sides.carries, silent_lengthText.carries, silent_lengthText.pair.carries,
    silent_lengthText.sides.carries, .orElse (hwords _) (.orElse silent_integerText.carries .fail),
    silent_integerText.carries, hwords _, hwords _, silent_flexFlow.carries,
    silent_numberText.carries, silent_flex.carries, hwords _, hwords _, hwords _, hwords _,
    hwords _, hwords _, hwords _, hwords _, hwords _, hwords _, hwords _, hpair _, hwords _,
    hwords _, hpair _, hwords _, hwords _, hpair _, (silent_lengthOr _).carries,
    (silent_lengthOr _).pair.carries, .orElse (hwords _) (.orElse silent_gridAreas.carries .fail),
    silent_gridAutoFlow.carries, hwords _, hwords _, List.forall_mem_nil _⟩

theorem carriesValue_borderGroups : ∀ g ∈ borderGroups, CarriesValue g := by
  simp only [borderGroups, List.forall_mem_cons]
  exact ⟨silent_lineWidth.carries, silent_lineStyle.carries, silent_colorText.carries,
    silent_outlineStyle.carries, silent_lineWidth.sides.carries, silent_lineStyle.sides.carries,
    silent_colorText.sides.carries, silent_lineWidth.pair.carries, silent_lineStyle.pair.carries,
    silent_colorText.pair.carries, carries_border silent_lineStyle,
    carries_border silent_outlineStyle, silent_lengthPercentageText.pair.carries,
    silent_radii.carries, silent_lengthText.pair.carries, carries_image,
    silent_imageSlice.carries, silent_imageWidth.carries, silent_imageOutset.carries,
    silent_imageRepeat.carries, carries_borderImage, List.forall_mem_nil _⟩

theorem carriesValue_backgroundGroups : ∀ g ∈ backgroundGroups, CarriesValue g := by
  have hlist : ∀ ws, Carries [] Printed.targets (commaList (words ws)) := fun ws =>
    (silent_words ws).commaList.carries
  simp only [backgroundGroups, List.forall_mem_cons]
  exact ⟨silent_colorText.carries, carries_image.commaList,
    (silent_positionPartText silent_horizontalSide).commaList.carries,
    (silent_positionPartText silent_verticalSide).commaList.carries,
    silent_positionText.commaList.carries, silent_layerSize.commaList.carries,
    silent_layerRepeat.commaList.carries, hlist _, hlist _, hlist _,
    carries_background.commaList, hlist _, hlist _, hlist _, hlist _, carries_words _,
    carries_mask.commaList, List.forall_mem_nil _⟩

theorem carriesValue_textGroups : ∀ g ∈ textGroups, CarriesValue g := by
  have hwords := carries_words
  simp only [textGroups, List.forall_mem_cons]
  exact ⟨silent_colorText.carries, silent_fontWeight.carries, silent_fontSize.carries,
    silent_fontWidth.carries, silent_family.commaList.carries, silent_fontSlope.carries,
    hwords _, silent_lineHeight.carries, silent_font.carries, (silent_lengthOr _).carries,
    (Silent.inOrder (by
      simp only [List.forall_mem_cons]
      exact ⟨silent_words _, silent_words _, silent_words _, List.forall_mem_nil _⟩)).carries,
    hwords _, .orElse silent_numberText.carries (.orElse silent_lengthText.carries .fail),
    hwords _, hwords _, hwords _, hwords _, hwords _, hwords _, hwords _, silent_spacing.carries,
    silent_textIndent.carries, silent_decorationLine.carries, hwords _,
    silent_decorationThickness.carries, silent_decoration.carries, hwords _,
    .orElse (hwords _) (.orElse (silent_measureText silent_percentage).carries .fail), hwords _,
    hwords _, silent_listMark.carries, carries_image, hwords _, carries_listStyle, hwords _,
    List.forall_mem_nil _⟩

theorem carriesValue_effectGroups : ∀ g ∈ effectGroups, CarriesValue g := by
  have hwords := carries_words
  simp only [effectGroups, List.forall_mem_cons]
  exact ⟨silent_boxShadow.commaList.carries, silent_textShadow.commaList.carries,
    silent_opacity.carries, carries_filters, carries_paint, hwords _,
    silent_lengthPercentageText.carries, hwords _, hwords _, silent_numberText.carries,
    silent_dashes.carries, carries_marker, hwords _, hwords _, hwords _, hwords _, hwords _,
    carries_cursor, silent_colorOrAuto.carries, hwords _, hwords _, silent_appearance.carries,
    hwords _, hwords _, List.forall_mem_nil _⟩

theorem carriesValue_motionGroups (split : String → String × String) :
    ∀ g ∈ motionGroups split, CarriesValue g := by
  have hlist : ∀ ws, Carries [] Printed.targets (commaList (words ws)) := fun ws =>
    (silent_words ws).commaList.carries
  simp only [motionGroups, List.forall_mem_cons]
  exact ⟨(silent_propertyName split).commaList.carries, silent_timeText.commaList.carries,
    silent_easing.commaList.carries, (silent_transition split).commaList.carries,
    silent_namedAnimation.commaList.carries, silent_repeatCount.commaList.carries, hlist _,
    hlist _, hlist _, hlist _, silent_animation.commaList.carries, silent_transform.carries,
    silent_positionText.carries, carries_words _, carries_words _, carries_words _,
    .orElse (carries_words _) (.orElse silent_lengthText.carries .fail), List.forall_mem_nil _⟩

theorem carriesValue_groups (split : String → String × String) :
    ∀ g ∈ groupsWith split, CarriesValue g := by
  intro g hg
  simp only [groupsWith, List.mem_append] at hg
  rcases hg with ((((hg | hg) | hg) | hg) | hg) | hg
  · exact carriesValue_layoutGroups g hg
  · exact carriesValue_borderGroups g hg
  · exact carriesValue_backgroundGroups g hg
  · exact carriesValue_textGroups g hg
  · exact carriesValue_effectGroups g hg
  · exact carriesValue_motionGroups split g hg

theorem carries_of_reader? {name : String} {r : Reader Printed} (h : reader? name = some r) :
    Carries [] Printed.targets r := by
  obtain ⟨g, hg, rfl⟩ := Option.map_eq_some_iff.mp h
  exact carriesValue_groups _ g (List.mem_of_find?_eq_some hg)

/-- The printed value of a property has the references of the value, understood or not. -/
theorem targets_of_read? {written name : String} {value : List Component} {p : Printed}
    (h : read? written value = some (name, p)) : targetsOf value <+~ Printed.targets p := by
  unfold read? at h
  dsimp only at h
  split at h
  · rename_i q hq
    cases h
    obtain ⟨r, hr, hall⟩ := Option.bind_eq_some_iff.mp hq
    exact (carries_of_reader? hr).of_all? hall
  · split at h
    · cases h
    · obtain ⟨q, hq, h⟩ := Option.bind_eq_some_iff.mp h
      cases h
      exact targets_of_verbatim? hq

end Property

namespace Declaration

@[simp] theorem targets_print (d : Declaration) :
    Printed.targets d.print = Printed.targets d.value := by
  rw [print]
  split
  · simp
  · simp

/-- An important declaration only moves to the end. -/
theorem perm_inOrder (ds : List Declaration) : inOrder ds ~ ds := by
  have hsplit := List.filter_append_perm Declaration.important ds
  exact List.perm_append_comm.trans hsplit

theorem targets_subperm_printAll (ds : List Declaration) :
    ds.flatMap (fun d => Printed.targets d.value) <+~ Printed.targets (printAll ds) := by
  rw [printAll, Printed.targets_joinWith, List.flatMap_map]
  simp only [targets_print]
  exact ((perm_inOrder ds).symm.flatMap_right _).subperm

end Declaration

namespace Reader

theorem silent_importance : Silent importance :=
  silent_atEnd.bind fun _ => .ite .pure
    ((silent_delim '!').bind fun _ => (silent_word _).bind fun _ => .pure)

/-- A value with a mark behind it is held until the mark is read. -/
theorem carries_markedValue {α : Type} {out : α → List String} (inValue : Component → Bool)
    (written : String) {f : Bool → String × Printed → Reader α}
    (hf : ∀ important np, Carries (Printed.targets np.2) out (f important np)) :
    Carries [] out (do
      let s ← rest
      let important ← inside importance (s.dropWhile inValue)
      let np ← ofOption (Property.read? written (s.takeWhile inValue))
      f important np) := by
  refine carries_rest.bind fun s => ?_
  have hsplit : targetsOf s <+~
      targetsOf (s.takeWhile inValue) ++ targetsOf (s.dropWhile inValue) := by
    rw [← Component.targetsOf_append, List.takeWhile_append_dropWhile]
  have hmark := (silent_importance.inside (s.dropWhile inValue)).beside
    (targetsOf (s.takeWhile inValue))
  refine (hmark.of_subperm hsplit).bind fun important => ?_
  rw [List.append_nil]
  have hread : Carries (targetsOf (s.takeWhile inValue))
      (fun np : String × Printed => Printed.targets np.2)
      (ofOption (Property.read? written (s.takeWhile inValue))) :=
    .ofOption fun np h => Property.targets_of_read? h
  exact hread.bind fun np => hf important np

theorem carries_declaration :
    Carries [] (fun d : Declaration => Printed.targets d.value) declaration :=
  silent_ident.bind fun written => silent_colon.bind fun _ =>
    carries_markedValue (fun c => !endsValue (isDashed written) c) written
      fun _ _ => .pure_of_subperm (.refl _)

end Reader

end Css

end StylePrune
