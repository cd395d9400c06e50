import StylePrune.Proofs.Tree.Shape

/-!
# Kept rules

A rendering is the text of the rule tree that is left without the leaves that are not kept and
without the grouping rules that have none.  Leaves without text count, but nothing of them and
nothing around them alone is printed.
-/

namespace StylePrune

open Selector (Descriptor)

namespace Leaf

def isKept (keep : List Descriptor → Bool) (l : Leaf) : Bool :=
  Node.keeps keep l.selectors

def isShown (keep : List Descriptor → Bool) (l : Leaf) : Bool :=
  l.isKept keep && l.css != ""

end Leaf

namespace Node

mutual

/-- The text of a node with everything inside. -/
def print : Node → String
  | leaf css _ => css
  | container header rules => header ++ " \x7b " ++ printList rules ++ " \x7d"

def printList : List Node → String
  | [] => ""
  | n :: rest => print n ++ printList rest

end

theorem printList_append (ns ms : List Node) :
    printList (ns ++ ms) = printList ns ++ printList ms := by
  induction ns with
  | nil => simp [printList]
  | cons n rest ih => rw [List.cons_append, printList, printList, ih, String.append_assoc]

/-! ## Pruning in two steps -/

mutual

theorem prune?_eq_restrict (keep : List Descriptor → Bool) (n : Node) :
    (n.prune? keep).toList = withoutHollowList (n.select (Leaf.isKept keep)) := by
  cases n with
  | leaf css selectors =>
      rw [prune?, select, Leaf.isKept]
      cases keeps keep selectors <;> rfl
  | container header rules =>
      rw [prune?, withoutHollowList_select_container, pruneList_eq_restrict keep rules]
      split
      · rename_i hnil
        rw [if_pos (withoutHollowList_eq_nil_iff.mp hnil)]
        rfl
      · rename_i n rest hcons
        rw [if_neg, hcons]
        · rfl
        · rw [← withoutHollowList_eq_nil_iff, ← restrict, hcons]
          exact List.cons_ne_nil n rest

/-- Pruning deletes the leaves that are not kept and then the grouping rules without any. -/
theorem pruneList_eq_restrict (keep : List Descriptor → Bool) (rules : List Node) :
    pruneList keep rules = restrict (Leaf.isKept keep) rules := by
  cases rules with
  | nil => rfl
  | cons n rest =>
      rw [pruneList, restrict_cons, ← prune?_eq_restrict keep n, ← pruneList_eq_restrict keep rest]
      cases prune? keep n <;> rfl

end

/-! ## Rendering what is left -/

mutual

/-- There is no text exactly if no leaf is shown. -/
theorem css_render_eq_empty_iff (keep : List Descriptor → Bool) (n : Node) :
    (n.render keep).css = "" ↔ n.leaves.any (Leaf.isShown keep) = false := by
  cases n with
  | leaf css selectors =>
      rw [render, leaves, List.any_cons, List.any_nil, Bool.or_false, Leaf.isShown, Leaf.isKept]
      cases keeps keep selectors <;> simp
  | container header rules =>
      rw [render, leaves, ← css_renderList_eq_empty_iff keep rules, Rendering.wrap]
      split
      · rfl
      · rename_i hcss
        simp [hcss]

theorem css_renderList_eq_empty_iff (keep : List Descriptor → Bool) (rules : List Node) :
    (renderList keep rules).css = "" ↔ (leavesList rules).any (Leaf.isShown keep) = false := by
  cases rules with
  | nil => simp [renderList, Rendering.empty, leavesList]
  | cons n rest =>
      rw [renderList, leavesList, List.any_append, Bool.or_eq_false_iff,
        ← css_render_eq_empty_iff keep n, ← css_renderList_eq_empty_iff keep rest,
        Rendering.append_eq, String.append_eq_empty_iff]

end

mutual

theorem css_render_eq_print (keep : List Descriptor → Bool) (n : Node) :
    (n.render keep).css = printList (withoutHollowList (n.select (Leaf.isShown keep))) := by
  cases n with
  | leaf css selectors =>
      rw [render, select, Leaf.isShown, Leaf.isKept]
      cases keeps keep selectors with
      | false => rfl
      | true =>
          by_cases hcss : css = "" <;>
            simp [hcss, withoutHollowList, withoutHollow, printList, print]
  | container header rules =>
      have hempty := (css_renderList_eq_empty_iff keep rules).trans
        leafCountList_selectList_eq_zero_iff.symm
      rw [render, withoutHollowList_select_container, Rendering.wrap]
      split
      · rename_i hcss
        rw [if_pos (hempty.mp hcss), hcss, printList]
      · rename_i hcss
        rw [if_neg (mt hempty.mpr hcss), printList, print, printList, String.append_empty,
          css_renderList_eq_printList keep rules]

/-- The text is that of the tree with the shown leaves alone. -/
theorem css_renderList_eq_printList (keep : List Descriptor → Bool) (rules : List Node) :
    (renderList keep rules).css = printList (restrict (Leaf.isShown keep) rules) := by
  cases rules with
  | nil => rfl
  | cons n rest =>
      rw [renderList, restrict_cons, printList_append, Rendering.append_eq,
        css_render_eq_print keep n, css_renderList_eq_printList keep rest]

end

mutual

theorem renderList_select (keep : List Descriptor → Bool) (n : Node) :
    renderList keep (n.select (Leaf.isKept keep)) =
      ⟨(n.render keep).css, (n.render keep).kept, 0⟩ := by
  cases n with
  | leaf css selectors =>
      rw [select, render, Leaf.isKept]
      cases hk : keeps keep selectors with
      | false => rfl
      | true => simp [renderList, render, hk]
  | container header rules =>
      rw [select, renderList, render, renderList_selectList keep rules, render, renderList,
        Rendering.append_empty, Rendering.wrap, Rendering.wrap]
      split <;> rfl

theorem renderList_selectList (keep : List Descriptor → Bool) (rules : List Node) :
    renderList keep (selectList (Leaf.isKept keep) rules) =
      ⟨(renderList keep rules).css, (renderList keep rules).kept, 0⟩ := by
  cases rules with
  | nil => rfl
  | cons n rest =>
      rw [selectList, renderList_append, renderList_select keep n,
        renderList_selectList keep rest, renderList]
      rfl

end

/-- A tree without leaves has no text and counts nothing. -/
theorem renderList_of_hollow {keep : List Descriptor → Bool} {rules : List Node}
    (h : leafCountList rules = 0) : renderList keep rules = .empty := by
  have hcount := kept_add_dropped_renderList keep rules
  have hleaves : leavesList rules = [] := by
    rwa [leafCountList_eq_length, List.length_eq_zero_iff] at h
  have hcss : (renderList keep rules).css = "" := by
    rw [css_renderList_eq_empty_iff, hleaves, List.any_nil]
  have hkept : (renderList keep rules).kept = 0 := by omega
  have hdropped : (renderList keep rules).dropped = 0 := by omega
  calc renderList keep rules
      = ⟨(renderList keep rules).css, (renderList keep rules).kept,
          (renderList keep rules).dropped⟩ := rfl
    _ = .empty := by rw [hcss, hkept, hdropped, Rendering.empty]

mutual

theorem renderList_withoutHollow (keep : List Descriptor → Bool) (n : Node) :
    renderList keep n.withoutHollow = n.render keep := by
  cases n with
  | leaf css selectors => rw [withoutHollow, renderList, renderList, Rendering.append_empty]
  | container header rules =>
      rw [withoutHollow]
      split
      · rename_i hnone
        rw [render, renderList_of_hollow hnone, renderList]
        rfl
      · rw [renderList, render, renderList, Rendering.append_empty, render,
          renderList_withoutHollowList keep rules]

theorem renderList_withoutHollowList (keep : List Descriptor → Bool) (rules : List Node) :
    renderList keep (withoutHollowList rules) = renderList keep rules := by
  cases rules with
  | nil => rfl
  | cons n rest =>
      rw [withoutHollowList, renderList_append, renderList_withoutHollow keep n,
        renderList_withoutHollowList keep rest, renderList]

end

theorem renderList_pruneList (keep : List Descriptor → Bool) (rules : List Node) :
    renderList keep (pruneList keep rules) =
      ⟨(renderList keep rules).css, (renderList keep rules).kept, 0⟩ := by
  rw [pruneList_eq_restrict, restrict, renderList_withoutHollowList, renderList_selectList]

end Node

namespace Inclusion

/--
A rendering counts every leaf.  Its text and its kept leaves are those of the tree without the
leaves that are not kept and then without the grouping rules that have no leaf.  Its text is
that of a tree whose leaves are the kept ones with a text, in their order and with the headers
around them, and whose grouping rules are those with such a leaf inside.  Of trees one after
another the texts and the counts are put together.
-/
theorem render_prunes (m : Inclusion) (rules : List Node) :
    (m.render rules).kept + (m.render rules).dropped = (rules.map Node.leafCount).sum ∧
    (Node.pruneList m.includesAny rules =
        Node.withoutHollowList (Node.selectList (Leaf.isKept m.includesAny) rules) ∧
      m.render (Node.pruneList m.includesAny rules) =
        ⟨(m.render rules).css, (m.render rules).kept, 0⟩) ∧
    (∃ shown : List Node,
      (m.render rules).css = Node.printList shown ∧
      Node.placedLeavesList [] shown =
        (Node.placedLeavesList [] rules).filter (fun l => l.2.isShown m.includesAny) ∧
      (Node.groupsList [] shown).map Prod.fst =
        ((Node.groupsList [] rules).filter
          fun g => (Node.leavesList g.2).any (Leaf.isShown m.includesAny)).map Prod.fst) ∧
    ∀ more : List Node, m.render (rules ++ more) =
      ⟨(m.render rules).css ++ (m.render more).css,
        (m.render rules).kept + (m.render more).kept,
        (m.render rules).dropped + (m.render more).dropped⟩ := by
  refine ⟨m.kept_add_dropped_render rules, ⟨?_, ?_⟩,
    ⟨Node.restrict (Leaf.isShown m.includesAny) rules, ?_, ?_, ?_⟩, fun more => ?_⟩
  · exact Node.pruneList_eq_restrict m.includesAny rules
  · exact Node.renderList_pruneList m.includesAny rules
  · exact Node.css_renderList_eq_printList m.includesAny rules
  · exact Node.placedLeavesList_restrict rules
  · exact Node.map_fst_groupsList_restrict rules
  · exact Node.renderList_append m.includesAny rules more

/-- A leaf without text counts as kept, but the grouping rule around it is not printed. -/
example : (Inclusion.mk .empty .minimal []).render
    [.container "@media print" [.leaf "" none], .leaf ".a\x7b\x7d" none] =
      ⟨".a\x7b\x7d", 2, 0⟩ := by
  decide +kernel

end Inclusion

end StylePrune
