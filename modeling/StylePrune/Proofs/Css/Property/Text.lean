import StylePrune.Css.Property.Effect
import StylePrune.Css.Property.Text
import StylePrune.Proofs.Css.Values

/-!
# Properties of text and effects carry their references

The image of a list's marks, and the references of filters, paints, markers and cursors.
-/

namespace StylePrune

namespace Css

namespace Reader

open scoped List
open Component (targetsOf)

/-! ## Fonts -/

theorem silent_fontSize : Silent fontSize :=
  silent_lengthOr _

theorem silent_lineHeight : Silent lineHeight :=
  .orElse (silent_words _) (.orElse silent_numberText (.orElse silent_lengthPercentageText .fail))

theorem silent_fontLeadStep (lead : FontLead) : Silent (fontLeadStep lead) :=
  .orElse ((silent_word _).bind fun _ => .pure)
    (.orElse (.when .fail fun _ => silent_fontSlope.bind fun _ => .pure)
      (.orElse (.when .fail fun _ => silent_fontWeight.bind fun _ => .pure)
        (.orElse (.when .fail fun _ => (silent_words _).bind fun _ => .pure)
          (.orElse (.when .fail fun _ => silent_fontWidthWord.bind fun _ => .pure) .fail))))

theorem silent_fontLead (lead : FontLead) (fuel : Nat) : Silent (fontLead lead fuel) := by
  induction fuel generalizing lead with
  | zero => exact .fail
  | succ fuel ih =>
      refine (silent_fontLeadStep lead).optional.bind fun found => ?_
      cases found with
      | none => exact .ite .fail .pure
      | some lead => exact ih lead

theorem silent_font : Silent font := by
  refine (silent_fontLead _ _).bind fun lead => silent_fontSize.bind fun size => ?_
  refine (silent_delim '/').optional.bind fun found => ?_
  cases found with
  | none => exact Carries.pure.bind fun _ => silent_family.commaList.bind fun _ => .pure
  | some _ =>
      refine silent_lineHeight.bind fun height => ?_
      exact Carries.pure.bind fun _ => silent_family.commaList.bind fun _ => .pure

/-! ## Decoration -/

theorem silent_decorationLine : Silent decorationLine :=
  .orElse (silent_words _)
    (.orElse ((silent_oneOf _).many.bind fun _ => .ite .fail .pure) .fail)

theorem silent_decorationStyle : Silent decorationStyle :=
  silent_words _

theorem silent_decorationThickness : Silent decorationThickness :=
  silent_lengthOr _

theorem silent_decoration : Silent decoration := by
  have hreaders : ∀ r ∈ [decorationLine, decorationThickness, decorationStyle, colorText],
      Silent r := by
    simp only [List.forall_mem_cons]
    exact ⟨silent_decorationLine, silent_decorationThickness, silent_decorationStyle,
      silent_colorText, List.forall_mem_nil _⟩
  refine (Silent.fillSlots hreaders _).bind fun filled => ?_
  split
  · split
    · exact .pure
    · exact .pure
  · exact .fail

theorem silent_textIndent : Silent textIndent := by
  refine .inOrder ?_
  simp only [List.forall_mem_cons]
  exact ⟨silent_lengthPercentageText, silent_words _, silent_words _, List.forall_mem_nil _⟩

theorem silent_spacing : Silent spacing :=
  .orElse (silent_words _) (.orElse silent_lengthText .fail)

/-! ## Lists -/

theorem silent_listMark : Silent listMark :=
  .orElse (silent_words _)
    (.orElse (silent_string.bind fun _ => .pure) (.orElse silent_customIdentText .fail))

theorem silent_listPosition : Silent listPosition :=
  silent_words _

theorem carries_listStyle : Carries [] Printed.targets listStyle := by
  refine .shorthand ?_
  simp only [List.forall_mem_cons]
  exact ⟨carries_image, silent_listMark.carries, silent_listPosition.carries,
    List.forall_mem_nil _⟩

/-! ## Shadows and filters -/

theorem silent_shadowLengths (spreads : Bool) : Silent (shadowLengths spreads) := by
  refine silent_length.bind fun x => silent_length.bind fun y => ?_
  refine silent_length.optional.bind fun blur => ?_
  exact .either silent_length.optional .pure fun spread => .pure

theorem silent_shadow {inset : Reader Printed} (h : Silent inset) (spreads : Bool) :
    Silent (shadow inset spreads) := by
  have hlengths : Silent (do return Printed.ofText (← shadowLengths spreads).text) :=
    (silent_shadowLengths spreads).bind fun _ => .pure
  refine (Silent.anyOrder ?_).bind fun parts => ?_
  · simp only [List.forall_mem_cons]
    exact ⟨h, hlengths, silent_colorText, List.forall_mem_nil _⟩
  · split
    · exact .pure
    · exact .fail

theorem silent_boxShadow : Silent boxShadow :=
  silent_shadow (silent_words _) _

theorem silent_textShadow : Silent textShadow :=
  silent_shadow .fail _

theorem silent_dropShadow : Silent dropShadow :=
  silent_shadow .fail _

theorem silent_filterArgument {r : Reader Printed} (h : Silent r) (usual : List String) :
    Silent (filterArgument r usual) := by
  refine h.optional.bind fun found => ?_
  split
  · exact .pure
  · exact .pure

theorem silent_amount : Silent amount :=
  .orElse silent_numberText (.orElse (silent_measureText silent_percentage) .fail)

theorem silent_filterArgumentOf (name : String) : Silent (filterArgumentOf name) := by
  unfold filterArgumentOf
  split
  · exact silent_filterArgument silent_lengthText _
  · exact silent_filterArgument (silent_measureText silent_angleOrZero) _
  · exact silent_filterArgument silent_amount _
  · exact silent_filterArgument silent_amount _
  · exact silent_filterArgument silent_amount _
  · exact silent_filterArgument silent_amount _
  · exact silent_filterArgument silent_amount _
  · exact silent_filterArgument silent_amount _
  · exact silent_filterArgument silent_amount _
  · exact silent_dropShadow
  · exact .fail

theorem carries_filterFunction : Carries [] Printed.targets filterFunction := by
  refine .orElse carries_urlPiece (.orElse (carries_function.bind fun call => ?_) .fail)
  obtain ⟨name, items⟩ := call
  by_cases hname : name = "url"
  · subst hname
    exact (Carries.inside_fail items).bind fun _ => .pure
  · have hinside := (silent_filterArgumentOf name).inside items
    exact (hinside.of_subperm (inCall_subperm hname)).bind fun _ => .pure

theorem carries_filters : Carries [] Printed.targets filters := by
  refine .orElse (silent_words _).carries (.orElse (carries_filterFunction.many.bind ?_) .fail)
  intro found
  refine .ite .fail (.pure_of_subperm ?_)
  rw [Printed.targets_flatten]

/-! ## Paint and the interface -/

/-- A reference with more text after it. -/
theorem targets_subperm_joinWith (target : Printed) (separator : String) (rest : List Printed) :
    Printed.targets target <+~ Printed.targets (Printed.joinWith separator (target :: rest)) := by
  rw [Printed.targets_joinWith, List.flatMap_cons]
  exact (List.sublist_append_left _ _).subperm

theorem carries_paint : Carries [] Printed.targets paint := by
  refine .orElse (carries_urlPiece.bind fun target => ?_)
    (.orElse silent_colorText.carries (.orElse (silent_words _).carries .fail))
  have hfallback : Silent (firstOf [words ["none"], colorText]) :=
    .orElse (silent_words _) (.orElse silent_colorText .fail)
  exact hfallback.optional.bind fun _ => .pure_of_subperm (targets_subperm_joinWith _ _ _)

theorem silent_opacity : Silent opacity :=
  silent_fractionOfOne.bind fun _ => .pure

theorem silent_dashes : Silent dashes := by
  refine .orElse (silent_words _) (.orElse (Silent.bind (.many ?_) fun _ => .ite .fail .pure) .fail)
  exact silent_lengthPercentage.bind fun _ => silent_comma.optional.bind fun _ => .pure

theorem carries_marker : Carries [] Printed.targets marker :=
  .orElse (silent_words _).carries (.orElse carries_urlPiece .fail)

theorem carries_cursorImage : Carries [] Printed.targets cursorImage := by
  refine carries_urlPiece.bind fun target => ?_
  have hpoint : Silent (do
      let x ← numberText
      return [x, ← numberText]) :=
    silent_numberText.bind fun _ => silent_numberText.bind fun _ => .pure
  exact hpoint.optional.bind fun _ => silent_comma.bind fun _ =>
    .pure_of_subperm (targets_subperm_joinWith _ _ _)

theorem carries_cursor : Carries [] Printed.targets cursor := by
  refine carries_cursorImage.many.bind fun images => (silent_words _).bind fun word => ?_
  refine .pure_of_subperm ?_
  rw [Printed.targets_joinWith, List.flatMap_append]
  exact (List.sublist_append_left _ _).subperm

theorem silent_colorOrAuto : Silent colorOrAuto :=
  .orElse (silent_words _) (.orElse silent_colorText .fail)

theorem silent_appearance : Silent appearance :=
  .orElse (silent_words _) (.orElse (silent_ident.bind fun _ => .pure) .fail)

end Reader

end Css

end StylePrune
