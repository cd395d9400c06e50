import Mathlib.Algebra.GroupWithZero.Nat
import StylePrune.Tree.Rendering

/-!
# Rendering of nodes in order

Renderings one after another, and the leaves that a rendering accounts for: each one is kept
or dropped.
-/

namespace StylePrune

open Selector (Descriptor)

namespace Rendering

theorem append_eq (r s : Rendering) :
    r ++ s = ⟨r.css ++ s.css, r.kept + s.kept, r.dropped + s.dropped⟩ := rfl

@[simp] theorem append_empty (r : Rendering) : r ++ empty = r := by
  simp [append_eq, empty]

@[simp] theorem empty_append (r : Rendering) : empty ++ r = r := by
  simp [append_eq, empty]

theorem append_assoc (r s t : Rendering) : r ++ s ++ t = r ++ (s ++ t) := by
  simp [append_eq, String.append_assoc, Nat.add_assoc]

@[simp] theorem kept_wrap (header : String) (r : Rendering) :
    (r.wrap header).kept = r.kept := by
  unfold wrap
  split <;> rfl

@[simp] theorem dropped_wrap (header : String) (r : Rendering) :
    (r.wrap header).dropped = r.dropped := by
  unfold wrap
  split <;> rfl

end Rendering

namespace Node

theorem renderList_append (keep : List Descriptor → Bool) (ns ms : List Node) :
    renderList keep (ns ++ ms) = renderList keep ns ++ renderList keep ms := by
  induction ns with
  | nil => simp [renderList]
  | cons n rest ih => rw [List.cons_append, renderList, renderList, ih, Rendering.append_assoc]

theorem leafCountList_eq_sum (rules : List Node) :
    leafCountList rules = (rules.map leafCount).sum := by
  induction rules with
  | nil => rfl
  | cons n rest ih => rw [leafCountList, ih, List.map_cons, List.sum_cons]

mutual

/-- Every leaf of a node is kept or dropped, the leaves of an empty grouping rule too. -/
theorem kept_add_dropped_render (keep : List Descriptor → Bool) (n : Node) :
    (n.render keep).kept + (n.render keep).dropped = n.leafCount := by
  cases n with
  | leaf css selectors =>
      rw [render, leafCount]
      split <;> rfl
  | container header rules =>
      rw [render, leafCount, Rendering.kept_wrap, Rendering.dropped_wrap]
      exact kept_add_dropped_renderList keep rules

theorem kept_add_dropped_renderList (keep : List Descriptor → Bool) (rules : List Node) :
    (renderList keep rules).kept + (renderList keep rules).dropped = leafCountList rules := by
  cases rules with
  | nil => rfl
  | cons n rest =>
      have hn := kept_add_dropped_render keep n
      have hrest := kept_add_dropped_renderList keep rest
      rw [renderList, leafCountList, Rendering.append_eq]
      dsimp only
      omega

end

end Node

/-- Every leaf of a tree counts as kept or as dropped. -/
theorem Inclusion.kept_add_dropped_render (m : Inclusion) (rules : List Node) :
    (m.render rules).kept + (m.render rules).dropped = (rules.map Node.leafCount).sum := by
  rw [render, Node.kept_add_dropped_renderList, Node.leafCountList_eq_sum]

end StylePrune
