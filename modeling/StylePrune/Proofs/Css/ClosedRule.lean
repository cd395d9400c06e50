import StylePrune.Proofs.Css.Descriptor
import StylePrune.Proofs.Css.RuleTargets

/-!
# Rules without other rules carry their references

Fonts and the other rules of descriptors, keyframes, pages and counter styles, and the rules
that are not understood.  What such a rule leaves out is a descriptor or a keyframe that cannot
be read.
-/

namespace StylePrune

namespace Css

open scoped List
open Component (targetsOf)

namespace Reader

variable {items : List Component} {p : Printed}

/-! ## Keyframes -/

/-- What stands before the block of each keyframe, and the block. -/
def keyframeParts : Nat → List Component → List (List Component × List Component)
  | 0, _ => []
  | fuel + 1, s =>
      match skipBlanks s with
      | [] => []
      | .token .semicolon _ :: rest => keyframeParts fuel rest
      | .token (.atKeyword name) _ :: rest => keyframeParts fuel (atRule name rest).2
      | s =>
          match s.dropWhile (!·.isCurly) with
          | .block .curly items _ :: rest =>
              (s.takeWhile (!·.isCurly), items) :: keyframeParts fuel rest
          | _ => []

theorem keyframesFrom_eq_flatMap (fuel : Nat) (s : List Component) :
    keyframesFrom fuel s =
      (keyframeParts fuel s).flatMap fun k => (keyframe? k.1 k.2).getD [] := by
  fun_induction keyframeParts fuel s with
  | case1 => rfl
  | case2 fuel s hskip =>
      rw [keyframesFrom, hskip]
      rfl
  | case3 fuel s text rest hskip ih =>
      rw [keyframesFrom, hskip]
      exact ih
  | case4 fuel s name text rest hskip ih =>
      rw [keyframesFrom, hskip]
      exact ih
  | case5 fuel s items closed rest hend hsemicolon hat hdrop ih =>
      rw [keyframesFrom, List.flatMap_cons, ← ih]
      split <;> simp_all
  | case6 fuel s hend hsemicolon hat hdrop =>
      rw [keyframesFrom]
      split <;> simp_all

/-- The targets in the declarations of keyframes; keyframes that cannot be read are left out. -/
def keyframeTargets (items : List Component) : List String :=
  (keyframeParts (items.length + 1) items).flatMap fun k =>
    if (keyframe? k.1 k.2).isSome then targetsOf k.2 else []

theorem targets_of_keyframe? {head block : List Component} (h : keyframe? head block = some p) :
    targetsOf block <+~ Printed.targets p := by
  obtain ⟨times, -, h⟩ := Option.bind_eq_some_iff.mp h
  obtain ⟨ds, hds, h⟩ := Option.bind_eq_some_iff.mp h
  cases h
  rw [Printed.targets_append, Printed.targets_text]
  exact subperm_append_of_subperm_left _ (targetsOf_subperm_of_declarations hds)

theorem keyframeTargets_subperm {lead : String} {head : List Component}
    (h : keyframes? lead head items = some p) : keyframeTargets items <+~ Printed.targets p := by
  obtain ⟨name, -, h⟩ := Option.bind_eq_some_iff.mp h
  cases h
  rw [Printed.targets_append, Printed.targets_text, keyframesFrom_eq_flatMap]
  refine subperm_append_of_subperm_left _ ?_
  rw [Printed.targets_flatMap]
  refine flatMap_subperm_flatMap fun k _ => ?_
  cases hframe : keyframe? k.1 k.2 with
  | none => exact List.nil_subperm
  | some q => exact targets_of_keyframe? hframe

/-! ## Pages -/

theorem targets_of_marginBox? {r : AtRule} (h : marginBox? r = some p) :
    r.targets <+~ Printed.targets p := by
  obtain ⟨block, hblock, h⟩ := Option.bind_eq_some_iff.mp h
  obtain ⟨ds, hds, h⟩ := Option.bind_eq_some_iff.mp h
  split at h
  · rename_i hhead
    cases h
    rw [Bool.and_eq_true] at hhead
    rw [AtRule.targets, hblock, targetsOf_eq_nil_of_isEmpty hhead.2, Printed.targets_append,
      Printed.targets_text]
    exact subperm_append_of_subperm_left _ (targetsOf_subperm_of_declarations hds)
  · cases h

def pagePartTargets : Declaration ⊕ Printed → List String
  | .inl d => Printed.targets d.value
  | .inr box => Printed.targets box

theorem targets_of_pagePart? {x : Statement} {part : Declaration ⊕ Printed}
    (h : pagePart? x = some part) : x.targets <+~ pagePartTargets part := by
  cases x with
  | atRule r =>
      obtain ⟨box, hbox, rfl⟩ := Option.map_eq_some_iff.mp h
      exact targets_of_marginBox? hbox
  | other items =>
      obtain ⟨d, hd, rfl⟩ := Option.map_eq_some_iff.mp h
      exact carries_declaration.of_all? hd

/-- A page prints its declarations before its margin boxes. -/
theorem flatMap_pagePartTargets_perm (parts : List (Declaration ⊕ Printed)) :
    parts.flatMap pagePartTargets ~
      ((parts.filterMap fun p => p.getLeft?).flatMap fun d => Printed.targets d.value) ++
        (parts.filterMap fun p => p.getRight?).flatMap Printed.targets := by
  induction parts with
  | nil => exact List.Perm.refl _
  | cons part rest ih =>
      rw [List.flatMap_cons]
      cases part with
      | inl d =>
          simp only [List.filterMap_cons, Sum.getLeft?_inl, Sum.getRight?_inl, List.flatMap_cons,
            List.append_assoc]
          exact ih.append_left _
      | inr box =>
          simp only [List.filterMap_cons, Sum.getLeft?_inr, Sum.getRight?_inr, List.flatMap_cons]
          exact (ih.append_left _).trans (List.perm_append_comm_assoc _ _ _)

theorem targetsOf_subperm_of_page? {head : List Component} (h : page? head items = some p) :
    targetsOf items <+~ Printed.targets p := by
  obtain ⟨front, -, h⟩ := Option.bind_eq_some_iff.mp h
  obtain ⟨parts, hparts, h⟩ := Option.bind_eq_some_iff.mp h
  cases h
  have hitems : targetsOf items <+~ parts.flatMap pagePartTargets :=
    targetsOf_subperm_of_mapM (fun _ _ => targets_of_pagePart?) hparts
  have hds := Declaration.targets_subperm_printAll (parts.filterMap fun p => p.getLeft?)
  simp only [Printed.targets_append, Printed.targets_text, Printed.targets_flatten]
  refine subperm_append_of_subperm_left _ ?_
  refine hitems.trans ((flatMap_pagePartTargets_perm parts).subperm.trans ?_)
  exact hds.append (List.Subperm.refl _)

/-! ## Rules by their names -/

/-- The targets in the block of a rule that holds no other rules, by its name in lower case. -/
def closedTargets (name : String) (items : List Component) : List String :=
  match name with
  | "font-face" => (statements items).flatMap (descriptorTargets fontDescriptors)
  | "font-palette-values" => (statements items).flatMap (descriptorTargets paletteDescriptors)
  | "view-transition" => (statements items).flatMap (descriptorTargets transitionDescriptors)
  | _ => if (keyframesPrefix? name).isSome then keyframeTargets items else targetsOf items

theorem targets_of_declarationRule {head : String} {rule : Rule}
    (h : declarationRule head items = some rule) (conditions : Bool) :
    targetsOf items <+~ rule.targets conditions := by
  obtain ⟨ds, hds, h⟩ := Option.bind_eq_some_iff.mp h
  cases h
  rw [Rule.targets, Printed.targets_braced, Printed.targets_ofText, List.nil_append]
  exact targetsOf_subperm_of_declarations hds

theorem targets_of_unknownRule {r : AtRule} {rule : Rule} (h : unknownRule r = some rule)
    (hblock : r.block = some items) (conditions : Bool) :
    targetsOf items <+~ rule.targets conditions := by
  obtain ⟨head, -, h⟩ := Option.bind_eq_some_iff.mp h
  rw [hblock] at h
  obtain ⟨body, hbody, h⟩ := Option.bind_eq_some_iff.mp h
  cases h
  rw [Rule.targets, Printed.targets_append, Printed.targets_braced, Printed.targets_ofText,
    List.nil_append]
  exact subperm_append_of_subperm_right _ (targets_of_verbatim? hbody)

theorem closedTargets_subperm_of_closedRule {r : AtRule} {rule : Rule}
    (h : closedRule r = some (some rule)) (hblock : r.block = some items)
    (conditions : Bool) :
    closedTargets (Text.lower r.name) items <+~ rule.targets conditions := by
  unfold closedRule at h
  dsimp only at h
  simp only [hblock, Option.bind_eq_bind, Option.bind_some] at h
  split at h
  · rename_i hname
    rw [hname]
    obtain ⟨-, -, h⟩ := Option.bind_eq_some_iff.mp (Option.some.inj h)
    cases h
    exact descriptorTargets_subperm carries_fontDescriptors
  · rename_i hname
    rw [hname]
    obtain ⟨palette, -, h⟩ := Option.bind_eq_some_iff.mp (Option.some.inj h)
    cases h
    exact descriptorTargets_subperm carries_paletteDescriptors
  · rename_i hname
    rw [hname]
    obtain ⟨-, -, h⟩ := Option.bind_eq_some_iff.mp (Option.some.inj h)
    cases h
    exact descriptorTargets_subperm carries_transitionDescriptors
  · rename_i hname
    rw [hname]
    obtain ⟨families, -, h⟩ := Option.bind_eq_some_iff.mp (Option.some.inj h)
    obtain ⟨body, hbody, -⟩ := Option.bind_eq_some_iff.mp h
    exact (targetsOf_of_featureValues? hbody).trans List.nil_subperm
  · rename_i hname
    rw [hname]
    obtain ⟨name, -, h⟩ := Option.bind_eq_some_iff.mp (Option.some.inj h)
    exact targets_of_declarationRule h conditions
  · rename_i hname
    rw [hname]
    obtain ⟨-, -, h⟩ := Option.bind_eq_some_iff.mp (Option.some.inj h)
    exact targets_of_declarationRule h conditions
  · rename_i hname
    rw [hname]
    obtain ⟨-, -, h⟩ := Option.bind_eq_some_iff.mp (Option.some.inj h)
    exact targets_of_declarationRule h conditions
  · rename_i hname
    rw [hname]
    obtain ⟨p, hp, h⟩ := Option.bind_eq_some_iff.mp (Option.some.inj h)
    cases h
    exact targetsOf_subperm_of_page? hp
  · rename_i hface hpalette htransition _ _ _ _ _
    split at h
    · rename_i lead hlead
      obtain ⟨p, hp, h⟩ := Option.bind_eq_some_iff.mp (Option.some.inj h)
      cases h
      unfold closedTargets
      split
      · exact absurd ‹_› hface
      · exact absurd ‹_› hpalette
      · exact absurd ‹_› htransition
      · rw [hlead]
        exact keyframeTargets_subperm hp
    · cases h

/-- All of a rule that is not understood is kept. -/
theorem closedTargets_of_closedRule_eq_none {r : AtRule} (h : closedRule r = none) :
    closedTargets (Text.lower r.name) items = targetsOf items := by
  unfold closedRule at h
  dsimp only at h
  split at h
  all_goals try cases h
  rename_i hface hpalette htransition _ _ _ _ _
  split at h
  · cases h
  · rename_i hnone
    unfold closedTargets
    split
    · exact absurd ‹_› hface
    · exact absurd ‹_› hpalette
    · exact absurd ‹_› htransition
    · rw [hnone]
      rfl

end Reader

end Css

end StylePrune
