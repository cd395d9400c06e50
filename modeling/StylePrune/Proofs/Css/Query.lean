import StylePrune.Css.Rule.Reader
import StylePrune.Proofs.Css.Declaration

/-!
# Queries carry their references

A value in a query may be a variable of the browser with references in its fallback, and a test
of a container's style may be a declaration.  What a list of media queries leaves out is a query
that ends too early.
-/

namespace StylePrune

namespace Css

open scoped List
open Component (targetsOf)

/-! ## Targets in what is printed -/

namespace Feature

def targets : Feature → List String
  | present _ => []
  | plain _ value => Printed.targets value
  | range _ _ value => Printed.targets value
  | interval _ start _ _ stop => Printed.targets start ++ Printed.targets stop

@[simp] theorem targets_boundText (name : String) (comparison : Comparison) (value : Printed)
    (bracketed : Bool) :
    Printed.targets (boundText name comparison value bracketed) = Printed.targets value := by
  cases comparison <;> cases bracketed <;> simp [boundText]

@[simp] theorem targets_print (ranges : RangeStyle) (f : Feature) :
    Printed.targets (f.print ranges) = f.targets := by
  cases f <;> cases ranges <;> simp [print, targets]

end Feature

namespace Condition

mutual

def targets : Condition → List String
  | feature f => f.targets
  | style text => Printed.targets text
  | property text => Printed.targets text
  | not c => targets c
  | join _ conditions => targetsAll conditions

def targetsAll : List Condition → List String
  | [] => []
  | c :: rest => targets c ++ targetsAll rest

end

@[simp] theorem targets_bracketed (needed : Bool) (p : Printed) :
    Printed.targets (bracketed needed p) = Printed.targets p := by
  cases needed <;> simp [bracketed]

mutual

@[simp] theorem targets_print (ranges : RangeStyle) (c : Condition) :
    Printed.targets (c.print ranges) = c.targets := by
  cases c with
  | feature f => rw [print, targets, Feature.targets_print]
  | style text => rw [print, targets]
  | property text => rw [print, targets]
  | not c => rw [print, targets, Printed.targets_text, targets_bracketed, targets_print ranges c]
  | join by_ conditions =>
      rw [print, targets, Printed.targets_joinWith, targets_printAll ranges by_ conditions]

theorem targets_printAll (ranges : RangeStyle) (by_ : Connective) (cs : List Condition) :
    (printAll ranges by_ cs).flatMap Printed.targets = targetsAll cs := by
  cases cs with
  | nil => rfl
  | cons c rest =>
      rw [printAll, targetsAll, List.flatMap_cons, targets_bracketed, targets_print ranges c,
        targets_printAll ranges by_ rest]

end

end Condition

@[simp] theorem Printed.targets_braced (head body : Printed) :
    targets (braced head body) = targets head ++ targets body := by
  rw [braced, targets_append, targets_append, targets_text, targets_text, targets_nil,
    List.append_nil]

theorem Printed.targets_containerHead (name : Option String) (condition : Condition) :
    targets (containerHead name condition) = condition.targets :=
  condition.targets_print .comparisons

def MediaQuery.targets (q : MediaQuery) : List String :=
  Reader.inOption Condition.targets q.condition

@[simp] theorem MediaQuery.targets_print (q : MediaQuery) :
    Printed.targets q.print = q.targets := by
  unfold print targets
  cases q.condition with
  | none => rfl
  | some c =>
      dsimp only
      rw [Printed.targets_text, Reader.inOption_some]
      split
      · rw [Printed.targets_text, Condition.targets_bracketed, Condition.targets_print]
      · exact c.targets_print .bounds

theorem MediaQuery.targets_of_isAlways {q : MediaQuery} (h : q.isAlways = true) :
    q.targets = [] := by
  rw [isAlways, Bool.and_eq_true] at h
  rw [targets, Option.isNone_iff_eq_none.mp h.2]
  rfl

theorem Printed.targets_mediaHead (queries : List MediaQuery) :
    targets (mediaHead queries) = queries.flatMap MediaQuery.targets := by
  rw [mediaHead, targets_text, MediaQuery.printAll]
  split
  · rename_i hempty
    rw [List.isEmpty_iff.mp hempty]
    rfl
  · rw [targets_joinWith, List.flatMap_map]
    simp only [MediaQuery.targets_print]

namespace Reader

/-! ## Features -/

variable {features : List (String × FeatureType)}

theorem silent_featureName (features : List (String × FeatureType)) :
    Silent (featureName features) := by
  refine silent_ident.bind fun written => .ite .pure ?_
  split
  · exact .pure
  · exact .pure

theorem silent_ratio (short : Bool) : Silent (ratio short) := by
  refine silent_number.bind fun a => (silent_delim '/').optional.bind fun found => ?_
  split
  · exact silent_number.bind fun _ => .pure
  · exact .ite .pure .fail

theorem silent_featureValueOf (type : FeatureType) : Silent (featureValueOf type) := by
  cases type with
  | length => exact silent_length.bind fun _ => .pure
  | ratio => exact silent_ratio true
  | ident => exact silent_ident.bind fun _ => .pure
  | integer => exact silent_integer.bind fun _ => .pure
  | boolean => exact silent_integer.bind fun _ => .ite .pure .fail
  | resolution => exact silent_resolution.bind fun _ => .pure
  | number => exact silent_number.bind fun _ => .pure
  | unknown => exact .fail

theorem carries_environment : Carries [] Printed.targets environment := by
  refine carries_next.bind fun c => ?_
  split
  · refine .ite (.ofOption fun p hp => ?_) .fail
    have hprinted := targets_of_verbatim? hp
    rwa [Component.targetsOf_cons, Component.targetsOf_nil, List.append_nil] at hprinted
  · exact .fail

theorem silent_featureValueOfAny {types : List (Reader String)} (h : ∀ r ∈ types, Silent r) :
    Silent (featureValueOfAny types) :=
  (Carries.firstOf h).bind fun _ => .pure

theorem carries_featureValue (type : FeatureType) :
    Carries [] Printed.targets (featureValue type) := by
  have hone : ∀ t, Carries [] Printed.targets (featureValueOfAny [featureValueOf t]) := fun t =>
    (silent_featureValueOfAny (List.forall_mem_singleton.mpr (silent_featureValueOf t))).carries
  unfold featureValue
  split
  · have hnumbers : ∀ r ∈ [ratio false, featureValueOf .number, featureValueOf .length,
        featureValueOf .resolution], Silent r := by
      simp only [List.forall_mem_cons]
      exact ⟨silent_ratio false, silent_featureValueOf _, silent_featureValueOf _,
        silent_featureValueOf _, List.forall_mem_nil _⟩
    exact .orElse (silent_featureValueOfAny hnumbers).carries
      (.orElse carries_environment (.orElse (hone _) .fail))
  · exact .orElse (hone _) (.orElse carries_environment .fail)

theorem silent_comparison : Silent comparison := by
  have hequals : ∀ strict loose : Comparison, Silent (do
      return if (← optional (delim '=')).isSome then loose else strict) := fun _ _ =>
    (silent_delim '=').optional.bind fun _ => .pure
  refine carries_next.bind fun c => ?_
  split
  · rename_i h
    rw [targets_of_isDelim h]
    exact .pure
  · split
    · rename_i h
      rw [targets_of_isDelim h]
      exact hequals _ _
    · split
      · rename_i h
        rw [targets_of_isDelim h]
        exact hequals _ _
      · exact .fail

theorem carries_nameFirst (features : List (String × FeatureType)) :
    Carries [] Feature.targets (nameFirst features) := by
  have hoperator : Silent (firstOf [do colon; pure (none : Option Comparison),
      do return some (← comparison)]) :=
    .orElse (silent_colon.bind fun _ => .pure)
      (.orElse (silent_comparison.bind fun _ => .pure) .fail)
  refine (silent_featureName features).bind fun f => hoperator.optional.bind fun operator => ?_
  split
  · exact .pure
  · refine .ite .fail ((carries_featureValue f.type).bind fun value => ?_)
    split
    · exact .ite (.pure_of_subperm (.refl _)) .fail
    · exact .pure_of_subperm (.refl _)

/-- Looking for the name of a feature takes nothing. -/
theorem silent_findFeature (features : List (String × FeatureType)) :
    Silent fun s => match findFeature features s with
      | some f => .ok (f, s)
      | none => .error .unexpected := by
  intro s f rest h
  dsimp only at h
  split at h
  · obtain ⟨-, rfl⟩ : _ ∧ s = rest := by simpa using h
    exact List.Subperm.refl _
  · cases h

theorem carries_valueFirst (features : List (String × FeatureType)) :
    Carries [] Feature.targets (valueFirst features) := by
  refine (silent_findFeature features).bind fun f => .when .fail fun _ => ?_
  refine (carries_featureValue f.type).bind fun start => silent_comparison.bind fun first =>
    silent_ident.bind fun _ => silent_comparison.optional.bind fun second => ?_
  split
  · exact .pure_of_subperm (.refl _)
  · have hstop := (carries_featureValue f.type).beside (Printed.targets start)
    rw [List.append_nil] at hstop
    exact .ite (hstop.bind fun stop => .pure_of_subperm (.refl _)) .fail

theorem carries_feature (features : List (String × FeatureType)) :
    Carries [] Feature.targets (feature features) :=
  .orElse (carries_nameFirst features) (.orElse (carries_valueFirst features) .fail)

/-! ## Conditions -/

theorem silent_connective : Silent connective :=
  (silent_oneOf _).bind fun _ => .pure

/-- The tests of a kind carry their references. -/
structure CarriesTests (kind : ConditionKind) : Prop where
  feature : Carries [] Condition.targets kind.feature
  call : ∀ name items, Carries (inCall (name, items)) Condition.targets (kind.call name items)

/-- The readers of conditions with this fuel carry their references. -/
structure CarriesCondition (kind : ConditionKind) (fuel : Nat) : Prop where
  part : Carries [] Condition.targets (conditionPart kind fuel)
  tail : ∀ by_, Carries [] Condition.targetsAll (conditionTail kind by_ fuel)
  condition : ∀ any, Carries [] Condition.targets (condition kind any fuel)

variable {kind : ConditionKind}

theorem CarriesCondition.part_succ {fuel : Nat} (hkind : CarriesTests kind)
    (h : CarriesCondition kind fuel) :
    Carries [] Condition.targets (conditionPart kind (fuel + 1)) := by
  rw [conditionPart]
  refine carries_next.bind fun c => ?_
  split
  · rw [Component.targets_block]
    exact .inside (.orElse (h.condition true) (.orElse hkind.feature .fail)) _
  · exact (hkind.call _ _).of_subperm (targets_function_subperm _ _ _ _)
  · exact .fail

/-- What was read before is held while a part and more of them are read. -/
theorem CarriesCondition.parts {fuel : Nat} (h : CarriesCondition kind fuel) (by_ : Connective)
    {held : List String} {β : Type} {after : β → List String}
    {f : Condition → List Condition → Reader β}
    (hf : ∀ c cs, Carries (held ++ (c.targets ++ Condition.targetsAll cs)) after (f c cs)) :
    Carries held after (do
      let c ← conditionPart kind fuel
      let cs ← conditionTail kind by_ fuel
      f c cs) := by
  have hpart := h.part.beside held
  rw [List.append_nil] at hpart
  refine hpart.bind fun c => ?_
  have htail := (h.tail by_).beside (held ++ c.targets)
  rw [List.append_nil] at htail
  refine htail.bind fun cs => ?_
  rw [List.append_assoc]
  exact hf c cs

theorem carriesCondition (hkind : CarriesTests kind) (fuel : Nat) :
    CarriesCondition kind fuel := by
  induction fuel with
  | zero => exact ⟨.fail, fun _ => .fail, fun _ => .fail⟩
  | succ fuel ih =>
      refine ⟨ih.part_succ hkind, fun by_ => ?_, fun any => ?_⟩
      · rw [conditionTail]
        refine (silent_word _).optional.bind fun more => ?_
        split
        · exact .pure
        · exact ih.parts by_ fun c cs => .pure_of_subperm (.refl _)
      · rw [condition]
        refine (silent_word _).optional.bind fun negated => ?_
        split
        · exact ih.part.bind fun c => .pure_of_subperm (.refl _)
        · refine ih.part.bind fun first => silent_connective.optional.bind fun more => ?_
          split
          · exact .pure_of_subperm (.refl _)
          · exact .ite .fail (ih.parts _ fun c cs => .pure_of_subperm (.refl _))

theorem carries_conditionOf (hkind : CarriesTests kind) (any : Bool) :
    Carries [] Condition.targets (conditionOf kind any) := by
  intro s c rest h
  exact (carriesCondition hkind _).condition any h

theorem carries_featureTest (features : List (String × FeatureType)) :
    Carries [] Condition.targets (featureTest features) :=
  (carries_feature features).bind fun _ => .pure_of_subperm (.refl _)

/-! ## Containers -/

/-- A test of a style holds the references of a declaration. -/
theorem carries_styleFeature : Carries [] Condition.targets styleFeature := by
  refine silent_ident.bind fun written => silent_colon.optional.bind fun found => ?_
  split
  · exact .pure
  · exact carries_markedValue _ written fun _ _ => .pure_of_subperm (.refl _)

theorem carries_styleCondition : Carries [] Condition.targets styleCondition := by
  have htests : CarriesTests ⟨styleFeature, fun _ _ => fail⟩ :=
    ⟨carries_styleFeature, fun _ _ => .fail⟩
  refine .orElse ((carries_conditionOf htests true).bind fun c => ?_)
    (.orElse carries_styleFeature .fail)
  exact silent_expectEnd.bind fun _ => .pure_of_subperm (.refl _)

theorem carriesTests_container : CarriesTests ⟨featureTest containerFeatures, styleCall⟩ where
  feature := carries_featureTest containerFeatures
  call name items := by
    dsimp only
    unfold styleCall
    split
    · rename_i hname
      have hcall : inCall (name, items) <+~ targetsOf items := by
        refine inCall_subperm ?_
        rintro rfl
        exact absurd hname (by decide)
      refine ((carries_styleCondition.inside items).of_subperm hcall).bind fun c => ?_
      refine .pure_of_subperm ?_
      rw [Condition.targets, List.cons_append, Printed.targets_text, Printed.targets_append,
        Condition.targets_print]
      exact subperm_append_of_subperm_left _ (.refl _)
    · exact .fail

theorem silent_containerName : Silent containerName :=
  silent_customIdent.bind fun _ => .ite .fail .pure

theorem carries_containerQuery :
    Carries [] (fun q : Option String × Condition => q.2.targets) containerQuery :=
  silent_containerName.optional.bind fun _ =>
    (carries_conditionOf carriesTests_container true).bind fun _ => .pure_of_subperm (.refl _)

/-! ## Media -/

theorem carries_mediaCondition (any : Bool) :
    Carries [] Condition.targets (mediaCondition any) :=
  carries_conditionOf ⟨carries_featureTest mediaFeatures, fun _ _ => .fail⟩ any

theorem silent_medium : Silent medium :=
  silent_customIdent.bind fun _ => .pure

theorem carries_mediaQuery : Carries [] MediaQuery.targets mediaQuery := by
  have hnamed : Silent (do
      let qualifier ← optional (oneOf ["not", "only"])
      let name ← medium
      pure (qualifier, name)) :=
    (silent_oneOf _).optional.bind fun _ => silent_medium.bind fun _ => .pure
  refine hnamed.optional.bind fun named => ?_
  split
  · exact (carries_mediaCondition true).bind fun _ => .pure_of_subperm (.refl _)
  · refine (silent_word _).optional.bind fun more => ?_
    split
    · exact (carries_mediaCondition false).bind fun _ => .pure_of_subperm (.refl _)
    · exact .pure

/-- The targets in a media query, if it can be read. -/
def queryTargets (part : List Component) : List String :=
  if (all? mediaQuery part).isSome then targetsOf part else []

theorem queryTargets_of_error {part : List Component} {e : Fault}
    (h : all mediaQuery part = .error e) : queryTargets part = [] := by
  rw [queryTargets, all?, h]
  rfl

theorem queryTargets_subperm {part : List Component} {q : MediaQuery}
    (h : all mediaQuery part = .ok q) : queryTargets part <+~ q.targets := by
  rw [queryTargets, all?, h]
  exact carries_mediaQuery.of_all h

theorem flatMap_queryTargets_subperm {parts : List (List Component)} {queries : List MediaQuery}
    (h : mediaParts parts = .ok queries) :
    parts.flatMap queryTargets <+~ queries.flatMap MediaQuery.targets := by
  induction parts generalizing queries with
  | nil => exact List.nil_subperm
  | cons part rest ih =>
      rw [mediaParts] at h
      split at h
      · rename_i q hq
        split at h
        · rename_i qs hqs
          cases h
          rw [List.flatMap_cons, List.flatMap_cons]
          exact List.Subperm.append (queryTargets_subperm hq) (ih hqs)
        · cases h
      · rename_i hended
        rw [List.flatMap_cons, queryTargets_of_error hended]
        split at h
        · rename_i hempty
          rw [List.isEmpty_iff.mp hempty]
          exact List.nil_subperm
        · cases h
      · cases h

/-! ## Conditions by the names of their rules -/

/-- The targets in the condition of a rule, by its name in lower case. -/
def conditionTargets (name : String) (head : List Component) : List String :=
  match name with
  | "media" => (Component.splitCommas head).flatMap queryTargets
  | "container" => targetsOf head
  | _ => []

theorem conditionTargets_of_media {head : List Component} {queries : List MediaQuery}
    (h : all? mediaList head = some queries) :
    conditionTargets "media" head <+~ queries.flatMap MediaQuery.targets := by
  rw [all?, all, mediaList] at h
  cases hparts : mediaParts (Component.splitCommas head) with
  | error e =>
      rw [hparts] at h
      cases h
  | ok qs =>
      rw [hparts] at h
      cases h
      exact flatMap_queryTargets_subperm hparts

theorem conditionTargets_of_container {head : List Component}
    {query : Option String × Condition} (h : all? containerQuery head = some query) :
    conditionTargets "container" head <+~ query.2.targets :=
  carries_containerQuery.of_all? h

end Reader

end Css

end StylePrune
