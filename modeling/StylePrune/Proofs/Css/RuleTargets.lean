import StylePrune.Proofs.Css.Query

/-!
# Targets of rules

The targets in the declarations and the texts of a rule and of the rules inside it, to which
those in conditions may be counted.  All of them are in the text of the rule.
-/

namespace StylePrune

namespace Css

open scoped List

/-- Targets in conditions, which count or not. -/
def onlyIf (counted : Bool) (targets : List String) : List String :=
  if counted then targets else []

@[simp] theorem onlyIf_true (targets : List String) : onlyIf true targets = targets := rfl

@[simp] theorem onlyIf_false (targets : List String) : onlyIf false targets = [] := rfl

theorem onlyIf_append (counted : Bool) (xs ys : List String) :
    onlyIf counted (xs ++ ys) = onlyIf counted xs ++ onlyIf counted ys := by
  cases counted <;> rfl

theorem onlyIf_subperm (counted : Bool) (targets : List String) :
    onlyIf counted targets <+~ targets := by
  cases counted with
  | false => exact List.nil_subperm
  | true => exact List.Subperm.refl _

theorem onlyIf_subperm_onlyIf {xs ys : List String} (h : xs <+~ ys) (counted : Bool) :
    onlyIf counted xs <+~ onlyIf counted ys := by
  cases counted with
  | false => exact List.Subperm.refl _
  | true => exact h

theorem MediaQuery.flatMap_targets_of_isAlways {queries : List MediaQuery}
    (h : queries.all MediaQuery.isAlways = true) : queries.flatMap MediaQuery.targets = [] := by
  rw [List.flatMap_eq_nil_iff]
  intro q hq
  exact q.targets_of_isAlways (List.all_eq_true.mp h q hq)

namespace Rule

mutual

/-- The targets in a rule, with those in conditions if `conditions` holds. -/
def targets (conditions : Bool) : Rule → List String
  | .style _ declarations rules =>
      declarations.flatMap (fun d => Printed.targets d.value) ++ targetsAll conditions rules
  | .media queries rules =>
      onlyIf conditions (queries.flatMap MediaQuery.targets) ++ targetsAll conditions rules
  | .container _ condition rules =>
      onlyIf conditions condition.targets ++ targetsAll conditions rules
  | .supports _ rules => targetsAll conditions rules
  | .layer _ rules => targetsAll conditions rules
  | .document rules => targetsAll conditions rules
  | .startingStyle rules => targetsAll conditions rules
  | .scope _ _ rules => targetsAll conditions rules
  | .other text => Printed.targets text

def targetsAll (conditions : Bool) : List Rule → List String
  | [] => []
  | r :: rest => targets conditions r ++ targetsAll conditions rest

end

theorem targetsAll_append (conditions : Bool) (xs ys : List Rule) :
    targetsAll conditions (xs ++ ys) = targetsAll conditions xs ++ targetsAll conditions ys := by
  induction xs with
  | nil => rfl
  | cons r rest ih => rw [List.cons_append, targetsAll, targetsAll, ih, List.append_assoc]

/-- A block of declarations is printed unless it is empty. -/
theorem flatMap_targets_subperm_own (style : SelectorStyle) (selectors : List Complex)
    (declarations : List Declaration) (rules : List Rule) :
    declarations.flatMap (fun d => Printed.targets d.value) <+~
      Printed.targets (if declarations.isEmpty && !rules.isEmpty then []
        else braced (printSelectors style selectors) (Declaration.printAll declarations)) := by
  split
  · rename_i hempty
    rw [Bool.and_eq_true, List.isEmpty_iff] at hempty
    rw [hempty.1]
    exact List.nil_subperm
  · rw [Printed.targets_braced, Printed.targets_ofText, List.nil_append]
    exact Declaration.targets_subperm_printAll declarations

variable (conditions : Bool)

mutual

/-- The text of a rule has its targets. -/
theorem targets_subperm_print (style : SelectorStyle) (r : Rule) :
    r.targets conditions <+~ Printed.targets (r.print style) := by
  cases r with
  | style selectors declarations rules =>
      rw [targets, print, Printed.targets_append]
      exact (flatMap_targets_subperm_own style selectors declarations rules).append
        (targetsAll_subperm_printAll (style.inside selectors) rules)
  | media queries rules =>
      rw [targets, print]
      split
      · rename_i halways
        rw [MediaQuery.flatMap_targets_of_isAlways halways]
        exact (onlyIf_subperm conditions []).append (targetsAll_subperm_printAll style rules)
      · rw [Printed.targets_braced, Printed.targets_mediaHead]
        exact (onlyIf_subperm conditions _).append (targetsAll_subperm_printAll style rules)
  | container name condition rules =>
      rw [targets, print, Printed.targets_braced, Printed.targets_containerHead]
      exact (onlyIf_subperm conditions _).append (targetsAll_subperm_printAll style rules)
  | supports _ rules | layer _ rules | document rules | startingStyle rules =>
      rw [targets, print, Printed.targets_braced]
      exact subperm_append_of_subperm_right _ (targetsAll_subperm_printAll style rules)
  | scope start stop rules =>
      rw [targets, print, Printed.targets_braced]
      exact subperm_append_of_subperm_right _ (targetsAll_subperm_printAll .top rules)
  | other text =>
      rw [targets, print]

theorem targetsAll_subperm_printAll (style : SelectorStyle) (rules : List Rule) :
    targetsAll conditions rules <+~ Printed.targets (printAll style rules) := by
  cases rules with
  | nil => exact List.nil_subperm
  | cons r rest =>
      rw [targetsAll, printAll, Printed.targets_append]
      exact (targets_subperm_print style r).append (targetsAll_subperm_printAll style rest)

end

end Rule

end Css

end StylePrune
