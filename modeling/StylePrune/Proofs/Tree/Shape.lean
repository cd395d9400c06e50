import StylePrune.Proofs.Tree.Leaves

/-!
# Shape of rule trees

Where the leaves of a rule tree stand: each one with the headers of the grouping rules around
it.  Leaves can be deleted, and then the grouping rules that have none left; what stays keeps
its place and its order.
-/

namespace StylePrune

open Selector (Descriptor)

namespace Node

/-! ## Places -/

mutual

/-- The leaves of a node, each with the headers around it, the outermost first. -/
def placedLeaves (around : List String) : Node → List (List String × Leaf)
  | leaf css selectors => [(around, ⟨css, selectors⟩)]
  | container header rules => placedLeavesList (around ++ [header]) rules

def placedLeavesList (around : List String) : List Node → List (List String × Leaf)
  | [] => []
  | n :: rest => placedLeaves around n ++ placedLeavesList around rest

end

mutual

/-- The grouping rules of a node: the headers down to their own, and the rules inside. -/
def groups (around : List String) : Node → List (List String × List Node)
  | leaf _ _ => []
  | container header rules =>
      (around ++ [header], rules) :: groupsList (around ++ [header]) rules

def groupsList (around : List String) : List Node → List (List String × List Node)
  | [] => []
  | n :: rest => groups around n ++ groupsList around rest

end

/-! ## Deletions -/

mutual

/-- What is left of a node without the leaves that fail a test; grouping rules stay. -/
def select (p : Leaf → Bool) : Node → List Node
  | leaf css selectors => if p ⟨css, selectors⟩ then [leaf css selectors] else []
  | container header rules => [container header (selectList p rules)]

def selectList (p : Leaf → Bool) : List Node → List Node
  | [] => []
  | n :: rest => select p n ++ selectList p rest

end

mutual

/-- What is left of a node without the grouping rules that have no leaf. -/
def withoutHollow : Node → List Node
  | leaf css selectors => [leaf css selectors]
  | container header rules =>
      if leafCountList rules = 0 then [] else [container header (withoutHollowList rules)]

def withoutHollowList : List Node → List Node
  | [] => []
  | n :: rest => withoutHollow n ++ withoutHollowList rest

end

/-- Nodes without the leaves that fail a test, and without the grouping rules then empty. -/
def restrict (p : Leaf → Bool) (rules : List Node) : List Node :=
  withoutHollowList (selectList p rules)

variable {p : Leaf → Bool} {around : List String}

mutual

theorem leafCount_eq_length (n : Node) : n.leafCount = n.leaves.length := by
  cases n with
  | leaf css selectors => rfl
  | container header rules => exact leafCountList_eq_length rules

theorem leafCountList_eq_length (rules : List Node) :
    leafCountList rules = (leavesList rules).length := by
  cases rules with
  | nil => rfl
  | cons n rest =>
      rw [leafCountList, leavesList, List.length_append, leafCount_eq_length n,
        leafCountList_eq_length rest]

end

mutual

theorem map_snd_placedLeaves (around : List String) (n : Node) :
    (n.placedLeaves around).map Prod.snd = n.leaves := by
  cases n with
  | leaf css selectors => rfl
  | container header rules => exact map_snd_placedLeavesList _ rules

theorem map_snd_placedLeavesList (around : List String) (rules : List Node) :
    (placedLeavesList around rules).map Prod.snd = leavesList rules := by
  cases rules with
  | nil => rfl
  | cons n rest =>
      rw [placedLeavesList, leavesList, List.map_append, map_snd_placedLeaves around n,
        map_snd_placedLeavesList around rest]

end

theorem placedLeavesList_eq_nil_iff {rules : List Node} :
    placedLeavesList around rules = [] ↔ leafCountList rules = 0 := by
  rw [leafCountList_eq_length, ← map_snd_placedLeavesList around, List.length_map,
    List.length_eq_zero_iff]

theorem placedLeavesList_append (ns ms : List Node) :
    placedLeavesList around (ns ++ ms) =
      placedLeavesList around ns ++ placedLeavesList around ms := by
  induction ns with
  | nil => rfl
  | cons n rest ih => rw [List.cons_append, placedLeavesList, placedLeavesList, ih,
      List.append_assoc]

theorem groupsList_append (ns ms : List Node) :
    groupsList around (ns ++ ms) = groupsList around ns ++ groupsList around ms := by
  induction ns with
  | nil => rfl
  | cons n rest ih => rw [List.cons_append, groupsList, groupsList, ih, List.append_assoc]

/-! ## Deleting leaves -/

mutual

theorem placedLeavesList_select (p : Leaf → Bool) (around : List String) (n : Node) :
    placedLeavesList around (n.select p) = (n.placedLeaves around).filter fun l => p l.2 := by
  cases n with
  | leaf css selectors =>
      rw [select, placedLeaves]
      cases hp : p ⟨css, selectors⟩ <;> simp [hp, placedLeavesList, placedLeaves]
  | container header rules =>
      rw [select, placedLeavesList, placedLeaves, placedLeaves, placedLeavesList,
        List.append_nil]
      exact placedLeavesList_selectList p _ rules

/-- Leaves that pass the test keep their places. -/
theorem placedLeavesList_selectList (p : Leaf → Bool) (around : List String)
    (rules : List Node) :
    placedLeavesList around (selectList p rules) =
      (placedLeavesList around rules).filter fun l => p l.2 := by
  cases rules with
  | nil => rfl
  | cons n rest =>
      rw [selectList, placedLeavesList_append, placedLeavesList, List.filter_append,
        placedLeavesList_select p around n, placedLeavesList_selectList p around rest]

end

mutual

theorem groupsList_select (p : Leaf → Bool) (around : List String) (n : Node) :
    groupsList around (n.select p) =
      (n.groups around).map fun g => (g.1, selectList p g.2) := by
  cases n with
  | leaf css selectors =>
      rw [select, groups]
      split <;> rfl
  | container header rules =>
      rw [select, groupsList, groups, groups, groupsList, List.append_nil, List.map_cons,
        groupsList_selectList p _ rules]

/-- All grouping rules stay when leaves are deleted. -/
theorem groupsList_selectList (p : Leaf → Bool) (around : List String) (rules : List Node) :
    groupsList around (selectList p rules) =
      (groupsList around rules).map fun g => (g.1, selectList p g.2) := by
  cases rules with
  | nil => rfl
  | cons n rest =>
      rw [selectList, groupsList_append, groupsList, List.map_append,
        groupsList_select p around n, groupsList_selectList p around rest]

end

theorem leavesList_selectList (rules : List Node) :
    leavesList (selectList p rules) = (leavesList rules).filter p := by
  rw [← map_snd_placedLeavesList [] (selectList p rules), placedLeavesList_selectList,
    ← map_snd_placedLeavesList [] rules, List.filter_map]
  rfl

/-- A tree has no leaf left exactly if no leaf passes the test. -/
theorem leafCountList_selectList_eq_zero_iff {rules : List Node} :
    leafCountList (selectList p rules) = 0 ↔ (leavesList rules).any p = false := by
  rw [leafCountList_eq_length, leavesList_selectList, List.length_eq_zero_iff,
    List.filter_eq_nil_iff, List.any_eq_false]

/-! ## Deleting grouping rules -/

mutual

theorem placedLeavesList_withoutHollow (around : List String) (n : Node) :
    placedLeavesList around n.withoutHollow = n.placedLeaves around := by
  cases n with
  | leaf css selectors => simp [withoutHollow, placedLeavesList]
  | container header rules =>
      rw [withoutHollow, placedLeaves]
      split
      · rename_i hnone
        exact (placedLeavesList_eq_nil_iff.mpr hnone).symm
      · rw [placedLeavesList, placedLeaves, placedLeavesList, List.append_nil]
        exact placedLeavesList_withoutHollowList _ rules

/-- No leaf goes with the grouping rules that have none. -/
theorem placedLeavesList_withoutHollowList (around : List String) (rules : List Node) :
    placedLeavesList around (withoutHollowList rules) = placedLeavesList around rules := by
  cases rules with
  | nil => rfl
  | cons n rest =>
      rw [withoutHollowList, placedLeavesList_append, placedLeavesList,
        placedLeavesList_withoutHollow around n, placedLeavesList_withoutHollowList around rest]

end

mutual

theorem leafCountList_le_of_mem_groups {around : List String} {n : Node}
    {g : List String × List Node}
    (h : g ∈ n.groups around) : leafCountList g.2 ≤ n.leafCount := by
  cases n with
  | leaf css selectors => cases h
  | container header rules =>
      rw [groups] at h
      rcases List.mem_cons.mp h with rfl | h
      · exact Nat.le_refl _
      · exact leafCountList_le_of_mem_groupsList h

/-- A grouping rule has no more leaves than the tree. -/
theorem leafCountList_le_of_mem_groupsList {around : List String} {rules : List Node}
    {g : List String × List Node} (h : g ∈ groupsList around rules) :
    leafCountList g.2 ≤ leafCountList rules := by
  cases rules with
  | nil => cases h
  | cons n rest =>
      rw [leafCountList]
      rcases List.mem_append.mp h with h | h
      · exact Nat.le_add_right_of_le (leafCountList_le_of_mem_groups h)
      · exact Nat.le_add_left_of_le (leafCountList_le_of_mem_groupsList h)

end

mutual

theorem groupsList_withoutHollow (around : List String) (n : Node) :
    groupsList around n.withoutHollow =
      ((n.groups around).filter fun g => leafCountList g.2 != 0).map
        fun g => (g.1, withoutHollowList g.2) := by
  cases n with
  | leaf css selectors => rfl
  | container header rules =>
      rw [withoutHollow, groups]
      split
      · -- No grouping rule inside has a leaf either.
        rename_i hnone
        have hinside : (groupsList (around ++ [header]) rules).filter
            (fun g => leafCountList g.2 != 0) = [] := by
          rw [List.filter_eq_nil_iff]
          intro g hg
          have hle := leafCountList_le_of_mem_groupsList hg
          simp only [bne_iff_ne, ne_eq, Decidable.not_not]
          omega
        simp [hnone, hinside, groupsList]
      · rename_i hsome
        rw [groupsList, groups, groupsList, List.append_nil, List.filter_cons_of_pos (by simpa),
          List.map_cons, groupsList_withoutHollowList _ rules]

/-- The grouping rules that have a leaf stay in their places. -/
theorem groupsList_withoutHollowList (around : List String) (rules : List Node) :
    groupsList around (withoutHollowList rules) =
      ((groupsList around rules).filter fun g => leafCountList g.2 != 0).map
        fun g => (g.1, withoutHollowList g.2) := by
  cases rules with
  | nil => rfl
  | cons n rest =>
      rw [withoutHollowList, groupsList_append, groupsList, List.filter_append, List.map_append,
        groupsList_withoutHollow around n, groupsList_withoutHollowList around rest]

end

theorem withoutHollowList_append (ns ms : List Node) :
    withoutHollowList (ns ++ ms) = withoutHollowList ns ++ withoutHollowList ms := by
  induction ns with
  | nil => rfl
  | cons n rest ih => rw [List.cons_append, withoutHollowList, withoutHollowList, ih,
      List.append_assoc]

/-- Nothing is left exactly of a tree without leaves. -/
theorem withoutHollowList_eq_nil_iff {rules : List Node} :
    withoutHollowList rules = [] ↔ leafCountList rules = 0 := by
  constructor
  · intro h
    have hplaced : placedLeavesList [] rules = [] := by
      rw [← placedLeavesList_withoutHollowList, h, placedLeavesList]
    exact placedLeavesList_eq_nil_iff.mp hplaced
  · intro h
    induction rules with
    | nil => rfl
    | cons n rest ih =>
        rw [leafCountList, Nat.add_eq_zero_iff] at h
        rw [withoutHollowList, ih h.2, List.append_nil]
        cases n with
        | leaf css selectors => cases h.1
        | container header rules => exact if_pos h.1

/-! ## Both deletions -/

theorem placedLeavesList_restrict (rules : List Node) :
    placedLeavesList around (restrict p rules) =
      (placedLeavesList around rules).filter fun l => p l.2 := by
  rw [restrict, placedLeavesList_withoutHollowList, placedLeavesList_selectList]

/-- The grouping rules that stay are those with a leaf that passes the test. -/
theorem map_fst_groupsList_restrict (rules : List Node) :
    (groupsList around (restrict p rules)).map Prod.fst =
      ((groupsList around rules).filter fun g => (leavesList g.2).any p).map Prod.fst := by
  have htest : (fun g : List String × List Node => (leavesList g.2).any p) =
      (fun g => leafCountList g.2 != 0) ∘ fun g => (g.1, selectList p g.2) := by
    funext g
    have hzero := @leafCountList_selectList_eq_zero_iff p g.2
    rw [Function.comp_apply, Bool.eq_iff_iff, bne_iff_ne, ne_eq, hzero, Bool.not_eq_false]
  rw [restrict, groupsList_withoutHollowList, groupsList_selectList, List.filter_map, htest,
    List.map_map, List.map_map]
  rfl

theorem restrict_cons (p : Leaf → Bool) (n : Node) (rest : List Node) :
    restrict p (n :: rest) = withoutHollowList (n.select p) ++ restrict p rest := by
  rw [restrict, selectList, withoutHollowList_append, restrict]

theorem withoutHollowList_select_container (p : Leaf → Bool) (header : String)
    (rules : List Node) :
    withoutHollowList ((container header rules).select p) =
      if leafCountList (selectList p rules) = 0 then []
      else [container header (restrict p rules)] := by
  rw [select, withoutHollowList, withoutHollow, withoutHollowList, List.append_nil, restrict]

end Node

end StylePrune
