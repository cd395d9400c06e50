import StylePrune.Css.Value.Color
import StylePrune.Proofs.Css.Carrying

/-!
# Measures and colours carry no references

Numbers, calculations and colours are read from components without references.
-/

namespace StylePrune

namespace Css

namespace Reader

open scoped List
open Component (targetsOf)

/-! ## Calculations -/

theorem ne_url_of_mathNames {name : String} (h : mathNames.contains name = true) :
    name ≠ "url" := by
  rintro rfl
  exact absurd h (by decide)

/-- A function that is calculated is neither a reference nor a set of images. -/
theorem targets_calculated {name : String} {items : List Component}
    (h : mathNames.contains name = true) (text : List Char) (closed : Bool) :
    (Component.function name text items closed).targets = targetsOf items := by
  have hset : Component.isImageSet (Text.lower name) = false := by
    simp only [mathNames, List.contains_eq_mem, List.mem_cons, List.not_mem_nil, or_false,
      decide_eq_true_eq] at h
    rcases h with rfl | rfl | rfl | rfl <;> decide +kernel
  rw [Component.targets, if_neg (ne_url_of_mathNames h), hset, if_neg Bool.false_ne_true]

theorem targets_subperm_of_mathNames {name : String} {items : List Component}
    (h : mathNames.contains (Text.lower name) = true) (text : List Char) (closed : Bool) :
    (Component.function name text items closed).targets <+~ targetsOf items :=
  (targets_function_subperm name text items closed).trans
    (inCall_subperm (ne_url_of_mathNames h))

/-- The readers of calculations with some fuel. -/
structure SilentSums (units : Units) (fuel : Nat) : Prop where
  operand : Silent (operand units fuel)
  product : Silent (product units fuel)
  factors : ∀ left, Silent (factors units left fuel)
  sum : Silent (sum units fuel)
  summands : ∀ left, Silent (summands units left fuel)

section

variable {units : Units} {fuel : Nat}

theorem SilentSums.operand_succ (h : SilentSums units fuel) :
    Silent (Reader.operand units (fuel + 1)) := by
  rw [Reader.operand]
  refine carries_next.bind fun c => ?_
  split
  · exact .pure
  · exact .ite .pure .fail
  · exact .ite .pure .fail
  · exact h.sum.inside _
  · rename_i name text items closed
    dsimp only
    split
    · rename_i hname
      have hmath : mathNames.contains (Text.lower name) = true := by
        rw [hname]
        decide
      exact (h.sum.inside items).of_subperm (targets_subperm_of_mathNames hmath text closed)
    · split
      · rename_i hmath
        have hsums := h.sum.commaSeparated.inside items
        exact (hsums.of_subperm (targets_subperm_of_mathNames hmath text closed)).bind
          fun sums => .ofOption fun _ _ => List.Subperm.refl _
      · exact .fail
  · exact .fail

theorem SilentSums.factors_succ (h : SilentSums units fuel) (left : List Summand) :
    Silent (Reader.factors units left (fuel + 1)) := by
  rw [Reader.factors]
  refine (silent_delim '*').optional.bind fun times => ?_
  split
  · refine h.operand.bind fun right => ?_
    split
    · exact h.factors _
    · exact h.factors _
    · exact .fail
  · refine (silent_delim '/').optional.bind fun slash => ?_
    split
    · refine h.operand.bind fun right => ?_
      split
      · exact .ite .fail (h.factors _)
      · exact .fail
    · exact .pure

theorem SilentSums.summands_succ (h : SilentSums units fuel) (left : List Summand) :
    Silent (Reader.summands units left (fuel + 1)) := by
  rw [Reader.summands]
  refine silent_atEnd.bind fun ended => .ite .pure ?_
  refine carries_nextRaw.optional.bind fun blank => ?_
  split
  · refine carries_next.bind fun c => h.product.bind fun right => ?_
    split
    · rename_i hc
      rw [targets_of_isDelim hc]
      exact h.summands _
    · split
      · rename_i hc
        rw [targets_of_isDelim hc]
        exact h.summands _
      · exact .fail
  · exact .fail

theorem silentSums (units : Units) (fuel : Nat) : SilentSums units fuel := by
  induction fuel with
  | zero =>
      refine ⟨?_, ?_, fun left => ?_, ?_, fun left => ?_⟩
      · rw [operand]; exact .fail
      · rw [product]; exact .fail
      · rw [factors]; exact .fail
      · rw [sum]; exact .fail
      · rw [summands]; exact .fail
  | succ fuel ih =>
      refine ⟨ih.operand_succ, ?_, ih.factors_succ, ?_, ih.summands_succ⟩
      · rw [product]
        exact ih.operand.bind fun first => ih.factors first
      · rw [sum]
        exact ih.product.bind fun first => ih.summands first

end

theorem silent_calculation (units : Units) : Silent (calculation units) := by
  refine carries_next.bind fun c => ?_
  split
  · rename_i name text items closed
    dsimp only
    split
    · rename_i hmath
      have hwhole : (Component.function name text items closed).targets <+~
          targetsOf [Component.function (Text.lower name) text items closed] := by
        rw [Component.targetsOf_cons, targets_calculated hmath text closed]
        exact subperm_append_of_subperm_left _ (targets_subperm_of_mathNames hmath text closed)
      refine (((silentSums units _).operand.inside _).of_subperm hwhole).bind fun result => ?_
      split
      · exact .ite .fail .pure
      · exact .ite .pure .pure
    · exact .fail
  · exact .fail

theorem silent_measure (units : Units) (bare : Option String) : Silent (measure units bare) := by
  refine .orElse (silent_calculation units) (.orElse (carries_next.bind fun c => ?_) .fail)
  split
  · exact .ite .pure .fail
  · exact .ite .pure .fail
  · split
    · exact .pure
    · exact .fail
  · exact .fail

theorem silent_length : Silent length :=
  silent_measure _ _

theorem silent_lengthPercentage : Silent lengthPercentage :=
  silent_measure _ _

theorem silent_percentage : Silent percentage :=
  silent_measure _ _

theorem silent_time : Silent time :=
  silent_measure _ _

theorem silent_angle : Silent angle :=
  silent_measure _ _

theorem silent_resolution : Silent resolution :=
  silent_measure _ _

theorem silent_angleOrZero : Silent angleOrZero := by
  refine .orElse silent_angle (.orElse (carries_next.bind fun c => ?_) .fail)
  split
  · exact .ite .pure .fail
  · exact .fail

/-! ## Numbers -/

theorem silent_numberCalculation : Silent numberCalculation := by
  refine carries_next.bind fun c => ?_
  split
  · refine (((silentSums _ _).operand.inside _).of_subperm ?_).bind fun result => ?_
    · rw [Component.targetsOf_cons]
      exact (List.sublist_append_left _ _).subperm
    · exact .ofOption fun _ _ => List.Subperm.refl _
  · exact .fail

theorem silent_plainNumber : Silent plainNumber := by
  refine carries_next.bind fun c => ?_
  split
  · exact .pure
  · exact .fail

theorem silent_number : Silent number :=
  .orElse (silent_plainNumber.bind fun _ => .pure) (.orElse silent_numberCalculation .fail)

theorem silent_integer : Silent integer :=
  silent_plainNumber.bind fun _ => .ofOption fun _ _ => List.Subperm.refl _

theorem silent_fractionOfOne : Silent fractionOfOne := by
  refine .orElse silent_number (.orElse (silent_percentage.bind fun m => ?_) .fail)
  split
  · exact .pure
  · exact .fail

/-! ## Colours -/

theorem silent_part : Silent part := by
  refine carries_next.bind fun c => ?_
  split
  · exact .pure
  · exact .pure
  · exact .ite .pure .fail
  · exact .fail

theorem silent_hue : Silent hue := by
  refine carries_next.bind fun c => ?_
  split
  · exact .pure
  · exact .ofOption fun _ _ => List.Subperm.refl _
  · exact .ite .pure .fail
  · exact .fail

theorem silent_alphaAfter {separator : Reader Unit} (h : Silent separator) :
    Silent (alphaAfter separator) := by
  refine h.optional.bind fun found => ?_
  split
  · exact .pure
  · exact silent_part.bind fun _ => .pure

theorem silent_alphaText : Silent alphaText :=
  (silent_alphaAfter (silent_delim '/')).bind fun _ => .pure

/-- What separates the opacity, in the notation with commas and in the one without. -/
theorem silent_alphaAfter_ite (legacy : Bool) :
    Silent (alphaAfter (if legacy then comma else delim '/')) :=
  silent_alphaAfter (.ite silent_comma (silent_delim '/'))

theorem silent_rgbArguments : Silent rgbArguments := by
  refine silent_part.bind fun r => silent_comma.optional.bind fun found => ?_
  refine silent_part.bind fun g => .when silent_comma fun _ => ?_
  refine silent_part.bind fun b => .when .fail fun _ => ?_
  exact (silent_alphaAfter_ite _).bind fun alpha => .pure

theorem silent_hueArguments (commas : Bool) (make : Rat → Rat → Rat → Rat → Color) :
    Silent (hueArguments commas make) := by
  refine silent_hue.bind fun h => silent_comma.optional.bind fun found => ?_
  refine silent_part.bind fun s => .when silent_comma fun _ => ?_
  refine silent_part.bind fun l => .when .fail fun _ => ?_
  exact (silent_alphaAfter_ite _).bind fun alpha => .pure

theorem silent_labArguments (name : String) (light full : Rat) :
    Silent (labArguments name light full) :=
  silent_part.bind fun _ => silent_part.bind fun _ => silent_part.bind fun _ =>
    silent_alphaText.bind fun _ => .pure

theorem silent_lchArguments (name : String) (light full : Rat) :
    Silent (lchArguments name light full) :=
  silent_part.bind fun _ => silent_part.bind fun _ => silent_hue.bind fun _ =>
    silent_alphaText.bind fun _ => .pure

theorem silent_spaceArguments : Silent spaceArguments :=
  (silent_oneOf _).bind fun _ => silent_part.bind fun _ => silent_part.bind fun _ =>
    silent_part.bind fun _ => silent_alphaText.bind fun _ => .pure

theorem silent_colorArguments (name : String) : Silent (colorArguments name) := by
  unfold colorArguments
  split
  · exact silent_rgbArguments
  · exact silent_rgbArguments
  · exact silent_hueArguments _ _
  · exact silent_hueArguments _ _
  · exact silent_hueArguments _ _
  · exact silent_labArguments _ _ _
  · exact silent_lchArguments _ _ _
  · exact silent_labArguments _ _ _
  · exact silent_lchArguments _ _ _
  · exact silent_spaceArguments
  · exact .fail

/-- A function that stands for a colour has no references among its arguments. -/
theorem targets_of_colorFunction? {name : String} {items : List Component} {c : Color}
    (h : colorFunction? name items = some c) (text : List Char) (closed : Bool) :
    (Component.function name text items closed).targets = [] := by
  have hitems : targetsOf items = [] :=
    List.subperm_nil.mp ((silent_colorArguments (Text.lower name)).of_all? h)
  have hne : name ≠ "url" := by
    rintro rfl
    have hfail : colorArguments (Text.lower "url") = fail := by
      have hlower : Text.lower "url" = "url" := by decide +kernel
      rw [hlower]
      rfl
    rw [colorFunction?, hfail] at h
    cases h
  rw [Component.targets, if_neg hne, hitems, ite_self]

theorem silent_color : Silent color := by
  refine carries_next.bind fun c => ?_
  split
  · exact .ofOption fun _ _ => List.Subperm.refl _
  · exact .ofOption fun _ _ => List.Subperm.refl _
  · refine .ofOption fun c hc => ?_
    rw [targets_of_colorFunction? hc]
  · exact .fail

end Reader

end Css

end StylePrune
