import StylePrune.Proofs.Allow.Compile
import StylePrune.Proofs.Tree.Rendering
import StylePrune.Pruning

/-!
# All or nothing

A pruning prints the whole tree or leaves everything as it was.  It falls back for a pattern
that the engine refuses or a text that cannot be read, never for a selector.
-/

namespace StylePrune

/-- Selectors have no part in whether a text can be read. -/
theorem Node.parse?_eq_none_iff (css url : String) :
    parse? css url = none ↔
      Css.Reader.rules? (Css.Component.ofText (withoutMark css.toList)) = none := by
  unfold parse?
  cases Css.Reader.rules? (Css.Component.ofText (withoutMark css.toList)) <;> simp

namespace Sheet

/-- The engine refuses a pattern of the allow list that is in force for the stylesheet. -/
def HasBrokenEntry (engine : Allow.Engine) (s : Sheet) (entries : List Allow.Entry) : Prop :=
  ∃ e ∈ entries, e.IsInForce s.id s.url ∧ e.IsBroken engine

theorem allowRules_eq_error_iff {engine : Allow.Engine} {s : Sheet}
    {entries : List Allow.Entry} :
    (∃ err, s.allowRules engine entries = .error err) ↔ s.HasBrokenEntry engine entries :=
  Allow.compile_eq_error_iff

/-- There is no tree, and the text cannot be read. -/
def IsUnreadable (s : Sheet) : Prop :=
  s.tree = none ∧
    Css.Reader.rules? (Css.Component.ofText (Node.withoutMark s.content.toList)) = none

theorem rules?_eq_none_iff {s : Sheet} : s.rules? = none ↔ s.IsUnreadable := by
  rw [IsUnreadable, ← Node.parse?_eq_none_iff s.content s.url]
  cases h : s.tree with
  | none => simp [rules?_of_tree_eq_none h]
  | some rules => simp [rules?_of_tree h]

section

variable {engine : Allow.Engine} {settings : Settings} {usage : Usage} {s : Sheet}

/-- A pruning that cannot tell the rules changes the output only. -/
theorem prune_of_fallback
    (h : s.HasBrokenEntry engine (settings.entries usage.allow) ∨ s.IsUnreadable) :
    s.prune engine settings usage =
      (.unchanged s.content, { s with output := some s.content }) := by
  rw [prune]
  cases ha : s.allowRules engine (settings.entries usage.allow) with
  | error e => rfl
  | ok allow =>
      have hno : ¬ s.HasBrokenEntry engine (settings.entries usage.allow) := by
        rw [← allowRules_eq_error_iff, ha]
        simp
      have hr := rules?_eq_none_iff.mpr (h.resolve_left hno)
      simp only [hr]

/-- A pruning that can tell the rules renders the whole tree and remembers it. -/
theorem exists_prune_eq
    (h : ¬ (s.HasBrokenEntry engine (settings.entries usage.allow) ∨ s.IsUnreadable)) :
    ∃ allow rules, s.allowRules engine (settings.entries usage.allow) = .ok allow ∧
      s.rules? = some rules ∧
      s.prune engine settings usage =
        (.ofRendering s.content ((inclusion settings usage allow).render rules),
          { s with
            tree := some rules
            output := some ((inclusion settings usage allow).render rules).css }) := by
  rw [not_or, ← allowRules_eq_error_iff, ← rules?_eq_none_iff] at h
  obtain ⟨ha, hr⟩ := h
  cases hallow : s.allowRules engine (settings.entries usage.allow) with
  | error e => exact absurd ⟨e, hallow⟩ ha
  | ok allow =>
      obtain ⟨rules, hrules⟩ := Option.ne_none_iff_exists'.mp hr
      refine ⟨allow, rules, rfl, hrules, ?_⟩
      rw [prune, hallow]
      simp only [hrules]

end

/--
A pruning falls back exactly if an entry in force has a pattern that the engine refuses or there
is no tree and the text cannot be read.  Then the text is the text as it was, nothing is counted
and there is a tree only if there was one.  Otherwise the text is the rendering of the whole
tree, every leaf is counted and the tree is remembered.
-/
theorem prune_all_or_nothing (engine : Allow.Engine) (settings : Settings) (usage : Usage)
    (s : Sheet) :
    let (pruned, after) := s.prune engine settings usage
    (pruned.report.fellBack = true ↔
        s.HasBrokenEntry engine (settings.entries usage.allow) ∨ s.IsUnreadable) ∧
      (if pruned.report.fellBack = true then
        pruned.css = s.content ∧
          pruned.report.outputSize = pruned.report.originalSize ∧
          pruned.report.kept = 0 ∧ pruned.report.dropped = 0 ∧ after.tree = s.tree
      else
        ∃ allow rules, s.allowRules engine (settings.entries usage.allow) = .ok allow ∧
          s.rules? = some rules ∧
          pruned.css = ((inclusion settings usage allow).render rules).css ∧
          pruned.report.outputSize = pruned.css.utf8ByteSize ∧
          pruned.report.kept = ((inclusion settings usage allow).render rules).kept ∧
          pruned.report.dropped = ((inclusion settings usage allow).render rules).dropped ∧
          pruned.report.kept + pruned.report.dropped = (rules.map Node.leafCount).sum ∧
          after.tree = some rules) ∧
      after.id = s.id ∧ after.url = s.url ∧ after.content = s.content ∧
      pruned.report.originalSize = s.content.utf8ByteSize ∧
      after.output = some pruned.css := by
  by_cases h : s.HasBrokenEntry engine (settings.entries usage.allow) ∨ s.IsUnreadable
  · rw [prune_of_fallback h]
    simp [Pruned.unchanged, h]
  · obtain ⟨allow, rules, ha, hr, hp⟩ := exists_prune_eq h
    have hcount := (inclusion settings usage allow).kept_add_dropped_render rules
    rw [hp]
    refine ⟨by simp [Pruned.ofRendering, h], ?_, rfl, rfl, rfl, rfl, rfl⟩
    rw [if_neg (by simp [Pruned.ofRendering])]
    exact ⟨allow, rules, ha, hr, rfl, rfl, rfl, rfl, hcount, rfl⟩

end Sheet

end StylePrune
