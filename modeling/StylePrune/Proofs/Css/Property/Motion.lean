import StylePrune.Css.Property.Motion
import StylePrune.Proofs.Css.Values

/-!
# Properties of motion carry no references

Transitions, animations and transformations are made of times, names, curves and measures.
-/

namespace StylePrune

namespace Css

namespace Reader

open Component (targetsOf)

/-! ## Transitions and animations -/

theorem silent_curve : Silent curve := by
  refine (carries_functionNamed (by decide)).bind fun items => ?_
  refine (silent_number.commaSeparated.inside items).bind fun points => .ite .fail ?_
  split
  · exact .pure
  · exact .pure

theorem silent_stepPlace : Silent stepPlace := by
  refine (silent_oneOf _).bind fun place => ?_
  split
  · exact .pure
  · exact .pure
  · exact .pure
  · exact .pure
  · exact .pure

theorem silent_steps : Silent steps := by
  refine (carries_functionNamed (by decide)).bind fun items => ?_
  have hplace : Silent (do
      comma
      stepPlace) :=
    silent_comma.bind fun _ => silent_stepPlace
  have hsteps : Silent (do
      let count ← integer
      let place ← optional (do
        comma
        stepPlace)
      pure (count, place.getD "end")) :=
    silent_integer.bind fun _ => hplace.optional.bind fun _ => .pure
  exact (hsteps.inside items).bind fun _ => .pure

theorem silent_easing : Silent easing :=
  .orElse (silent_words _) (.orElse silent_curve (.orElse silent_steps .fail))

theorem silent_propertyName (split : String → String × String) : Silent (propertyName split) :=
  silent_ident.bind fun _ => .pure

theorem silent_timeText : Silent (measureText time) :=
  silent_measureText silent_time

theorem silent_transition (split : String → String × String) : Silent (transition split) := by
  have hreaders : ∀ r ∈ [measureText time, easing, measureText time, propertyName split],
      Silent r := by
    simp only [List.forall_mem_cons]
    exact ⟨silent_timeText, silent_easing, silent_timeText, silent_propertyName split,
      List.forall_mem_nil _⟩
  refine (Silent.fillSlots hreaders _).bind fun filled => ?_
  split
  · exact .pure
  · exact .fail

theorem silent_repeatCount : Silent repeatCount :=
  .orElse (silent_words _) (.orElse silent_numberText .fail)

theorem silent_namedAnimation : Silent namedAnimation :=
  .orElse (silent_words _) (.orElse (silent_animationName.bind fun _ => .pure) .fail)

theorem silent_animation : Silent animation := by
  have hreaders : ∀ r ∈ [measureText time, easing, measureText time, repeatCount,
      words directionWords, words fillWords, words stateWords, namedAnimation], Silent r := by
    simp only [List.forall_mem_cons]
    exact ⟨silent_timeText, silent_easing, silent_timeText, silent_repeatCount, silent_words _,
      silent_words _, silent_words _, silent_namedAnimation, List.forall_mem_nil _⟩
  refine (Silent.fillSlots hreaders _).bind fun filled => ?_
  split
  · exact .ite .pure .pure
  · exact .fail

/-! ## Transformations -/

section

variable {α : Type} {r : Reader α}

theorem Silent.arguments? (h : Silent r) (least most : Nat) (items : List Component) :
    Carries (targetsOf items) (fun _ => []) (arguments? r least most items) :=
  (h.commaSeparated.inside items).bind fun _ => .ite .pure .fail

end

theorem silent_axisAndAngle : Silent axisAndAngle :=
  silent_number.bind fun _ => silent_comma.bind fun _ => silent_number.bind fun _ =>
    silent_comma.bind fun _ => silent_number.bind fun _ => silent_comma.bind fun _ =>
      silent_angleOrZero.bind fun _ => .pure

theorem silent_threeDistances : Silent threeDistances :=
  silent_lengthPercentage.bind fun _ => silent_comma.bind fun _ =>
    silent_lengthPercentage.bind fun _ => silent_comma.bind fun _ =>
      silent_length.bind fun _ => .pure

theorem carries_transformOf (name : String) (items : List Component) :
    Carries (targetsOf items) (fun _ => []) (transformOf name items) := by
  unfold transformOf
  split
  · exact (silent_number.arguments? 6 6 items).bind fun _ => .pure
  · exact (silent_number.arguments? 16 16 items).bind fun _ => .pure
  · refine (silent_lengthPercentage.arguments? 1 2 items).bind fun args => ?_
    split
    · exact .pure
    · exact .pure
    · exact .fail
  · exact (silent_lengthPercentage.inside items).bind fun _ => .pure
  · exact (silent_lengthPercentage.inside items).bind fun _ => .pure
  · exact (silent_length.inside items).bind fun _ => .pure
  · exact (silent_threeDistances.inside items).bind fun _ => .pure
  · refine (silent_fractionOfOne.arguments? 1 2 items).bind fun args => ?_
    split
    · exact .pure
    · exact .pure
    · exact .fail
  · exact (silent_fractionOfOne.inside items).bind fun _ => .pure
  · exact (silent_fractionOfOne.inside items).bind fun _ => .pure
  · exact (silent_fractionOfOne.inside items).bind fun _ => .pure
  · refine (silent_fractionOfOne.arguments? 3 3 items).bind fun args => ?_
    split
    · exact .pure
    · exact .fail
  · exact (silent_angleOrZero.inside items).bind fun _ => .pure
  · exact (silent_angleOrZero.inside items).bind fun _ => .pure
  · exact (silent_angleOrZero.inside items).bind fun _ => .pure
  · exact (silent_angleOrZero.inside items).bind fun _ => .pure
  · exact (silent_axisAndAngle.inside items).bind fun _ => .pure
  · refine (silent_angleOrZero.arguments? 1 2 items).bind fun args => ?_
    split
    · exact .pure
    · exact .pure
    · exact .fail
  · exact (silent_angleOrZero.inside items).bind fun _ => .pure
  · exact (silent_angleOrZero.inside items).bind fun _ => .pure
  · exact (silent_length.inside items).bind fun _ => .pure
  · exact .fail

theorem silent_transformFunction : Silent transformFunction := by
  refine carries_function.bind fun call => ?_
  obtain ⟨name, items⟩ := call
  by_cases hname : name = "url"
  · subst hname
    exact .fail
  · exact (carries_transformOf name items).of_subperm (inCall_subperm hname)

theorem silent_transform : Silent transform :=
  .orElse (silent_words _)
    (.orElse (silent_transformFunction.many.bind fun _ => .ite .fail .pure) .fail)

end Reader

end Css

end StylePrune
