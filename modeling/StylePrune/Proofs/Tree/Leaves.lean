import Mathlib.Data.String.Basic
import StylePrune.Proofs.Tree.Rendering

/-!
# Leaves

The leaves of a rule tree in the order of its text, whatever grouping rules stand around them.
A rendering keeps some of them; one that keeps more has no less text.
-/

namespace StylePrune

open Selector (Descriptor)

structure Leaf where
  css : String
  selectors : Option (List Descriptor)

namespace Node

mutual

def leaves : Node → List Leaf
  | leaf css selectors => [⟨css, selectors⟩]
  | container _ rules => leavesList rules

def leavesList : List Node → List Leaf
  | [] => []
  | n :: rest => leaves n ++ leavesList rest

end

variable {keep keep' : List Descriptor → Bool}

mutual

/-- A rendering counts the leaves that it keeps. -/
theorem kept_render (keep : List Descriptor → Bool) (n : Node) :
    (n.render keep).kept = n.leaves.countP fun l => keeps keep l.selectors := by
  cases n with
  | leaf css selectors =>
      rw [render, leaves, List.countP_singleton]
      cases keeps keep selectors <;> rfl
  | container header rules =>
      rw [render, leaves, Rendering.kept_wrap]
      exact kept_renderList keep rules

theorem kept_renderList (keep : List Descriptor → Bool) (rules : List Node) :
    (renderList keep rules).kept =
      (leavesList rules).countP fun l => keeps keep l.selectors := by
  cases rules with
  | nil => rfl
  | cons n rest =>
      rw [renderList, leavesList, Rendering.append_eq, List.countP_append, ← kept_render keep n,
        ← kept_renderList keep rest]

end

mutual

/-- The decisions about the leaves settle the rendering. -/
theorem render_congr {n : Node}
    (h : ∀ l ∈ n.leaves, keeps keep l.selectors = keeps keep' l.selectors) :
    n.render keep = n.render keep' := by
  cases n with
  | leaf css selectors =>
      have hk := h ⟨css, selectors⟩ List.mem_cons_self
      rw [render, render, hk]
  | container header rules => rw [render, render, renderList_congr h]

theorem renderList_congr {rules : List Node}
    (h : ∀ l ∈ leavesList rules, keeps keep l.selectors = keeps keep' l.selectors) :
    renderList keep rules = renderList keep' rules := by
  cases rules with
  | nil => rfl
  | cons n rest =>
      have hn := render_congr fun l hl => h l (List.mem_append_left _ hl)
      have hrest := renderList_congr fun l hl => h l (List.mem_append_right n.leaves hl)
      rw [renderList, renderList, hn, hrest]

end

/-- A grouping rule around more text has more text. -/
theorem sublist_wrap {r s : Rendering} (h : r.css.toList.Sublist s.css.toList)
    (header : String) : (r.wrap header).css.toList.Sublist (s.wrap header).css.toList := by
  by_cases hr : r.css = ""
  · rw [Rendering.wrap, if_pos hr, hr]
    exact List.nil_sublist _
  · have hs : s.css ≠ "" := by
      intro hs
      rw [hs, String.toList_empty, List.sublist_nil, String.toList_eq_nil_iff] at h
      exact hr h
    rw [Rendering.wrap, Rendering.wrap, if_neg hr, if_neg hs]
    simp only [String.toList_append]
    exact ((List.Sublist.refl _).append h).append (List.Sublist.refl _)

mutual

/-- Where every leaf that the first rendering keeps is kept, the second has more text. -/
theorem sublist_render {n : Node}
    (h : ∀ l ∈ n.leaves, keeps keep l.selectors = true → keeps keep' l.selectors = true) :
    (n.render keep).css.toList.Sublist (n.render keep').css.toList := by
  cases n with
  | leaf css selectors =>
      rw [render, render]
      by_cases hk : keeps keep selectors = true
      · rw [if_pos hk, if_pos (h ⟨css, selectors⟩ List.mem_cons_self hk)]
      · rw [if_neg hk]
        exact List.nil_sublist _
  | container header rules =>
      rw [render, render]
      exact sublist_wrap (sublist_renderList h) header

theorem sublist_renderList {rules : List Node}
    (h : ∀ l ∈ leavesList rules,
      keeps keep l.selectors = true → keeps keep' l.selectors = true) :
    (renderList keep rules).css.toList.Sublist (renderList keep' rules).css.toList := by
  cases rules with
  | nil => exact List.Sublist.refl _
  | cons n rest =>
      have hn := sublist_render fun l hl => h l (List.mem_append_left _ hl)
      have hrest := sublist_renderList fun l hl => h l (List.mem_append_right n.leaves hl)
      simp only [renderList, Rendering.append_eq, String.toList_append]
      exact hn.append hrest

end

end Node

namespace Inclusion

def keptLeaves (m : Inclusion) (rules : List Node) : List Leaf :=
  (Node.leavesList rules).filter fun l => Node.keeps m.includesAny l.selectors

theorem kept_render_eq_length (m : Inclusion) (rules : List Node) :
    (m.render rules).kept = (m.keptLeaves rules).length := by
  rw [render, Node.kept_renderList, List.countP_eq_length_filter, keptLeaves]

/-- The rendering for the second inclusion has all that the rendering for the first has. -/
structure RendersWithin (m n : Inclusion) (rules : List Node) : Prop where
  /-- Every leaf that is kept stays kept. -/
  keeps : ∀ l ∈ Node.leavesList rules,
    Node.keeps m.includesAny l.selectors = true → Node.keeps n.includesAny l.selectors = true
  leaves : (m.keptLeaves rules).Sublist (n.keptLeaves rules)
  kept : (m.render rules).kept ≤ (n.render rules).kept
  dropped : (n.render rules).dropped ≤ (m.render rules).dropped
  text : (m.render rules).css.toList.Sublist (n.render rules).css.toList
  size : (m.render rules).css.utf8ByteSize ≤ (n.render rules).css.utf8ByteSize

/-- The decisions about the leaves settle the rest. -/
theorem RendersWithin.of_keeps {m n : Inclusion} {rules : List Node}
    (h : ∀ l ∈ Node.leavesList rules, Node.keeps m.includesAny l.selectors = true →
      Node.keeps n.includesAny l.selectors = true) : m.RendersWithin n rules := by
  have hleaves : (m.keptLeaves rules).Sublist (n.keptLeaves rules) := by
    have hfilter : m.keptLeaves rules =
        (n.keptLeaves rules).filter fun l => Node.keeps m.includesAny l.selectors := by
      rw [keptLeaves, keptLeaves, List.filter_filter]
      refine List.filter_congr fun l hl => ?_
      rw [eq_comm, Bool.and_eq_left_iff_imp]
      exact h l hl
    rw [hfilter]
    exact List.filter_sublist
  have hkept : (m.render rules).kept ≤ (n.render rules).kept := by
    rw [kept_render_eq_length, kept_render_eq_length]
    exact hleaves.length_le
  have htext : (m.render rules).css.toList.Sublist (n.render rules).css.toList :=
    Node.sublist_renderList h
  refine ⟨h, hleaves, hkept, ?_, htext, ?_⟩
  · -- Both renderings count the same leaves.
    have hm := m.kept_add_dropped_render rules
    have hn := n.kept_add_dropped_render rules
    omega
  · rw [← String.ofList_toList (s := (m.render rules).css),
      ← String.ofList_toList (s := (n.render rules).css), String.utf8ByteSize_ofList,
      String.utf8ByteSize_ofList]
    exact String.utf8Len_le_of_sublist htext

end Inclusion

end StylePrune
