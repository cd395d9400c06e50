import StylePrune.Css.Rule.Descriptor
import StylePrune.Proofs.Css.Statement

/-!
# Descriptors carry their references

A descriptor that is printed has the references of its value, such as the sources of a font,
and so has the initial value of a registered property.  The values of font features have none.
-/

namespace StylePrune

namespace Css

open scoped List
open Component (targetsOf)

namespace Reader

variable {known : List (String × Reader Printed)} {items part : List Component} {p : Printed}

/-! ## Blocks of descriptors -/

/-- The descriptor is a range of code points, which is read by its text alone. -/
def isRange (part : List Component) : Bool :=
  match skipBlanks part with
  | .token (.ident name) _ :: _ => Text.lower name == "unicode-range"
  | _ => false

/-- The targets in a descriptor that is printed; those that cannot be read are left out. -/
def descriptorTargets (known : List (String × Reader Printed)) : Statement → List String
  | .atRule _ => []
  | .other part =>
      if (all? (descriptor known) part).isSome && !isRange part then targetsOf part else []

theorem isRange_of_ident {s : List Component} {name : String} (h : ident part = .ok (name, s)) :
    isRange part = (Text.lower name == "unicode-range") := by
  obtain ⟨c, s', hnext, hname⟩ := exists_of_bind_eq_ok h
  rw [next] at hnext
  rw [isRange]
  split at hnext
  · cases hnext
  · rename_i d more hskip
    obtain ⟨rfl, rfl⟩ : d = c ∧ more = s' := by simpa using hnext
    rw [hskip]
    split at hname
    · obtain ⟨rfl, -⟩ : _ = name ∧ _ := by simpa [pure_apply] using hname
      rfl
    · cases hname

theorem targets_of_descriptor
    (hknown : ∀ k ∈ known, k.1 ≠ "unicode-range" → Carries [] Printed.targets k.2)
    (h : all? (descriptor known) part = some p) (hrange : isRange part = false) :
    targetsOf part <+~ Printed.targets p := by
  obtain ⟨written, s, hident, hrest⟩ := exists_of_all?_bind h
  rw [isRange_of_ident hident, beq_eq_false_iff_ne] at hrange
  have hs : targetsOf part <+~ targetsOf s := silent_ident hident
  refine hs.trans ?_
  refine Carries.of_all? (?_ : Carries [] Printed.targets _) hrest
  refine silent_colon.bind fun _ => carries_rest.bind fun value => ?_
  refine .when .fail fun _ => ?_
  dsimp only
  split
  · rename_i q hq
    obtain ⟨r, hr, hall⟩ := Option.bind_eq_some_iff.mp hq
    have hname : r.1 = Text.lower written := by simpa using List.find?_some hr
    have hcarries := hknown r (List.mem_of_find?_eq_some hr) (by rwa [hname])
    have hvalue : targetsOf value <+~ Printed.targets q := hcarries.of_all? hall
    exact .pure_of_subperm hvalue
  · exact (Carries.ofOption fun q hq => targets_of_verbatim? hq).bind fun q =>
      .pure_of_subperm (List.Subperm.refl _)

/-- Descriptors that cannot be read are dropped without a word; the others are all printed. -/
theorem descriptorTargets_subperm
    (hknown : ∀ k ∈ known, k.1 ≠ "unicode-range" → Carries [] Printed.targets k.2) :
    (statements items).flatMap (descriptorTargets known) <+~
      Printed.targets (descriptors known items) := by
  simp only [descriptors, Printed.targets_text, Printed.targets_append, Printed.targets_joinWith,
    flatMap_filterMap]
  refine subperm_append_of_subperm_left _ (flatMap_subperm_flatMap fun x _ => ?_)
  cases x with
  | atRule r => exact List.nil_subperm
  | other part =>
      rw [descriptorTargets]
      split
      · rename_i hpart
        rw [Bool.and_eq_true, Option.isSome_iff_exists, Bool.not_eq_true'] at hpart
        obtain ⟨⟨p, hp⟩, hrange⟩ := hpart
        rw [statement?, hp]
        exact targets_of_descriptor hknown hp hrange
      · exact List.nil_subperm

/-! ## Fonts, palettes and transitions -/

theorem silent_fontFormat : Silent fontFormat :=
  Silent.bind (.orElse silent_ident (.orElse silent_string .fail)) fun _ => .pure

theorem silent_fontTechnology : Silent fontTechnology :=
  silent_words _

theorem carries_call {name : String} (h : name ≠ "url") :
    Carries [] targetsOf (functionNamed [name]) :=
  carries_functionNamed (by simpa using Ne.symm h)

/-- The reference of a source is held while its format and its technologies are read. -/
theorem carries_fontSource : Carries [] Printed.targets fontSource := by
  have hlocal : Carries [] Printed.targets (do
      let items ← functionNamed ["local"]
      let name ← inside family items
      pure ([Piece.text "local("] ++ name ++ [Piece.text ")"])) :=
    (carries_call (by decide)).bind fun items =>
      (Carries.inside silent_family items).bind fun _ => .pure_of_subperm List.nil_subperm
  refine .orElse (carries_url.bind fun target => ?_) (.orElse hlocal .fail)
  have hformat : ∀ items, Carries ([target] ++ targetsOf items) (fun _ => [target] ++ [])
      (inside fontFormat items) := fun items =>
    (Carries.inside silent_fontFormat items).beside [target]
  have htechnology : ∀ items, Carries ([target] ++ targetsOf items) (fun _ => [target] ++ [])
      (inside (commaList fontTechnology) items) := fun items =>
    (Carries.inside silent_fontTechnology.commaList items).beside [target]
  have hend : ∀ (format : String) (technology : Printed), Carries [target] Printed.targets
      (pure ([Piece.url target, Piece.text format] ++ technology) : Reader Printed) :=
    fun _ _ => .pure_of_subperm (by simp)
  refine .optional_bind (carries_call (by decide)) (Silent.bind .pure fun _ => ?_)
    fun items => (hformat items).bind fun _ => Silent.bind .pure fun _ => ?_
  all_goals
    exact .optional_bind (carries_call (by decide)) (Silent.bind .pure fun _ => hend _ _)
      fun items => (htechnology items).bind fun _ => Silent.bind .pure fun _ => hend _ _

theorem carries_fontDescriptors :
    ∀ k ∈ fontDescriptors, k.1 ≠ "unicode-range" → Carries [] Printed.targets k.2 := by
  simp only [fontDescriptors, List.forall_mem_cons]
  exact ⟨fun _ => carries_fontSource.commaList, fun _ => silent_family.carries,
    fun _ => silent_fontWeight.pair.carries, fun _ => silent_fontSlope.carries,
    fun _ => silent_fontWidth.pair.carries, fun h => absurd rfl h, List.forall_mem_nil _⟩

theorem carries_paletteDescriptors :
    ∀ k ∈ paletteDescriptors, k.1 ≠ "unicode-range" → Carries [] Printed.targets k.2 := by
  have hcolor : Silent (do
      let i ← integerText
      let c ← colorText
      pure (Printed.joinWith " " [i, c])) :=
    silent_integerText.bind fun _ => silent_colorText.bind fun _ => .pure
  simp only [paletteDescriptors, List.forall_mem_cons]
  exact ⟨fun _ => silent_family.carries,
    fun _ => .orElse (silent_words _).carries (.orElse silent_integerText.carries .fail),
    fun _ => hcolor.commaList.carries, List.forall_mem_nil _⟩

theorem carries_transitionDescriptors :
    ∀ k ∈ transitionDescriptors, k.1 ≠ "unicode-range" → Carries [] Printed.targets k.2 := by
  simp only [transitionDescriptors, List.forall_mem_cons]
  exact ⟨fun _ => (silent_words _).carries,
    fun _ => .orElse (silent_words _).carries
      (.orElse silent_customIdentText.carries.spaceList .fail), List.forall_mem_nil _⟩

/-! ## Registered properties -/

/-- The targets in the initial value of a registered property; the last one counts. -/
def registeredTargets (items : List Component) : List String :=
  match (statements items).foldlM registrationPart ⟨none, none, none⟩ with
  | some r => targetsOf (r.initial.getD [])
  | none => []

theorem carries_tokens : Carries [] Printed.targets (do ofOption (verbatim? .compact (← rest))) :=
  carries_rest.bind fun _ => .ofOption fun _ h => targets_of_verbatim? h

theorem carries_of_grammarValue {name : String} {r : Reader Printed}
    (h : grammarValue name = some r) : Carries [] Printed.targets r := by
  unfold grammarValue at h
  split at h
  all_goals try (obtain rfl := Option.some.inj h)
  · exact silent_lengthText.carries
  · exact silent_numberText.carries
  · exact (silent_measureText silent_percentage).carries
  · exact silent_lengthPercentageText.carries
  · exact silent_colorText.carries
  · exact carries_urlPiece
  · exact carries_urlPiece
  · exact silent_integerText.carries
  · exact (silent_measureText silent_angle).carries
  · exact (silent_measureText silent_time).carries
  · exact (silent_measureText silent_resolution).carries
  · exact silent_customIdentText.carries
  · exact carries_tokens
  · exact carries_tokens
  · split at h
    · cases h
    · obtain rfl := Option.some.inj h
      exact (silent_words _).carries

theorem carries_of_grammarPart? {text : String} {r : Reader Printed}
    (h : grammarPart? text = some r) : Carries [] Printed.targets r := by
  unfold grammarPart? at h
  dsimp only at h
  split at h
  · obtain ⟨q, hq, rfl⟩ := Option.map_eq_some_iff.mp h
    exact (carries_of_grammarValue hq).spaceList
  · obtain ⟨q, hq, rfl⟩ := Option.map_eq_some_iff.mp h
    exact (carries_of_grammarValue hq).commaList
  · exact carries_of_grammarValue h
  · cases h

theorem carries_of_mapM_grammarPart? {texts : List String} {rs : List (Reader Printed)}
    (h : texts.mapM grammarPart? = some rs) : ∀ r ∈ rs, Carries [] Printed.targets r := by
  induction texts generalizing rs with
  | nil =>
      obtain rfl : [] = rs := by simpa using h
      exact List.forall_mem_nil _
  | cons text more ih =>
      rw [List.mapM_cons] at h
      obtain ⟨r, hr, h⟩ := Option.bind_eq_some_iff.mp h
      obtain ⟨rest, hrest, h⟩ := Option.bind_eq_some_iff.mp h
      obtain rfl : r :: rest = rs := by simpa using h
      exact List.forall_mem_cons.mpr ⟨carries_of_grammarPart? hr, ih hrest⟩

theorem carries_of_grammar? {text name : String} {r : Reader Printed}
    (h : grammar? text = some (name, r)) : Carries [] Printed.targets r := by
  unfold grammar? at h
  dsimp only at h
  split at h
  · cases h
    exact carries_tokens
  · obtain ⟨rs, hrs, h⟩ := Option.bind_eq_some_iff.mp h
    cases h
    refine .firstOf fun r hr => ?_
    obtain ⟨q, hq, rfl⟩ := List.mem_map.mp hr
    have hread := carries_of_mapM_grammarPart? hrs q hq
    refine hread.bind fun p => ?_
    exact silent_expectEnd.bind fun _ => .pure_of_subperm (List.Subperm.refl _)

theorem registeredTargets_subperm (h : registration? items = some p) :
    registeredTargets items <+~ Printed.targets p := by
  obtain ⟨r, hr, h⟩ := Option.bind_eq_some_iff.mp h
  obtain ⟨text, -, h⟩ := Option.bind_eq_some_iff.mp h
  obtain ⟨⟨grammar, values⟩, hgrammar, h⟩ := Option.bind_eq_some_iff.mp h
  obtain ⟨inherits, -, h⟩ := Option.bind_eq_some_iff.mp h
  rw [registeredTargets, hr]
  dsimp only at h ⊢
  cases hinitial : r.initial with
  | none => exact List.nil_subperm
  | some value =>
      rw [hinitial] at h
      obtain ⟨q, hq, h⟩ := Option.bind_eq_some_iff.mp h
      cases h
      have hvalue : targetsOf value <+~ Printed.targets q :=
        (carries_of_grammar? hgrammar).of_all? hq
      rw [Printed.targets_append]
      exact subperm_append_of_subperm_left _ hvalue

/-! ## Values of font features -/

theorem silent_featureValueSet : Silent featureValueSet := by
  refine silent_ident.bind fun _ => silent_colon.bind fun _ => silent_integer.many.bind fun _ => ?_
  exact .when .fail fun _ => .pure

theorem targets_of_featureBlock {x : Statement} {b : String × List String}
    (h : featureBlock x = some b) : x.targets <+~ [] := by
  cases x with
  | other items => cases h
  | atRule r =>
      obtain ⟨block, hblock, h⟩ := Option.bind_eq_some_iff.mp h
      obtain ⟨sets, hsets, h⟩ := Option.bind_eq_some_iff.mp h
      split at h
      · rename_i hhead
        have hitems : targetsOf block <+~ sets.flatMap fun _ => [] :=
          targetsOf_subperm_of_mapM (fun _ _ => targets_of_statement? silent_featureValueSet) hsets
        rw [Bool.and_eq_true] at hhead
        rw [Statement.targets, AtRule.targets, hblock, targetsOf_eq_nil_of_isEmpty hhead.2]
        exact hitems.trans (flatMap_nil_subperm sets)
      · cases h

/-- Values of font features are numbers. -/
theorem targetsOf_of_featureValues? (h : featureValues? items = some p) :
    targetsOf items <+~ [] := by
  obtain ⟨blocks, hblocks, -⟩ := Option.bind_eq_some_iff.mp h
  have hitems : targetsOf items <+~ blocks.flatMap fun _ => [] :=
    targetsOf_subperm_of_mapM (fun _ _ => targets_of_featureBlock) hblocks
  exact hitems.trans (flatMap_nil_subperm blocks)

end Reader

end Css

end StylePrune
