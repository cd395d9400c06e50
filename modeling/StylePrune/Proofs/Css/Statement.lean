import StylePrune.Css.Statement
import StylePrune.Proofs.Css.Declaration

/-!
# Statements carry their references

Cutting a block into statements loses only semicolons and white space, so a block of
declarations has all references of its source.
-/

namespace StylePrune

namespace Css

open scoped List
open Component (targetsOf)

/-- The targets in an at-rule, before its block and in it. -/
def AtRule.targets (r : AtRule) : List String :=
  targetsOf r.head ++ targetsOf (r.block.getD [])

def Statement.targets : Statement → List String
  | .atRule r => r.targets
  | .other items => targetsOf items

namespace Reader

variable {name : String} {s rest : List Component} {c : Component}

theorem targets_of_isSemicolon (h : c.isSemicolon = true) : c.targets = [] := by
  unfold Component.isSemicolon at h
  split at h
  · rfl
  · cases h

/-- What ends a head is a block in curly brackets or has no references. -/
theorem targets_of_endsHead (h : endsHead c = true)
    (hblock : ∀ items closed, c ≠ .block .curly items closed) : c.targets = [] := by
  rcases Bool.or_eq_true_iff.mp h with h | h
  · exact targets_of_isSemicolon h
  · unfold Component.isCurly at h
    split at h
    · exact absurd rfl (hblock _ _)
    · cases h

theorem of_dropWhile_eq_cons {p : Component → Bool} (h : s.dropWhile p = c :: rest) :
    p c = false ∧ s = s.takeWhile p ++ c :: rest := by
  have hsplit : s = s.takeWhile p ++ c :: rest := by
    rw [← h, List.takeWhile_append_dropWhile]
  have hhead := List.head?_dropWhile_not p s
  rw [h] at hhead
  exact ⟨by simpa using hhead, hsplit⟩

/-! ## Cutting -/

theorem targets_atRule (name : String) (s : List Component) :
    (atRule name s).1.targets ++ targetsOf (atRule name s).2 = targetsOf s := by
  unfold atRule
  dsimp only
  split
  · rename_i items closed rest hdrop
    obtain ⟨-, hs⟩ := of_dropWhile_eq_cons hdrop
    conv_rhs => rw [hs]
    simp [AtRule.targets]
  · rename_i c rest hblock hdrop
    obtain ⟨hend, hs⟩ := of_dropWhile_eq_cons hdrop
    have hc : c.targets = [] :=
      targets_of_endsHead (by simpa using hend) fun items closed => hblock items closed
    conv_rhs => rw [hs]
    simp [AtRule.targets, hc]
  · rename_i hdrop
    have hs : s.takeWhile (!endsHead ·) = s := by
      have hsplit := List.takeWhile_append_dropWhile (p := (!endsHead ·)) (l := s)
      rwa [hdrop, List.append_nil] at hsplit
    simp [AtRule.targets, hs]

theorem length_dropWhile_le (p : Component → Bool) (s : List Component) :
    (s.dropWhile p).length ≤ s.length :=
  (List.dropWhile_sublist p).length_le

theorem length_atRule_le (name : String) (s : List Component) :
    (atRule name s).2.length ≤ s.length := by
  have hle := length_dropWhile_le (!endsHead ·) s
  unfold atRule
  dsimp only
  split
  · rename_i hdrop
    rw [hdrop, List.length_cons] at hle
    exact Nat.le_of_succ_le hle
  · rename_i hdrop
    rw [hdrop, List.length_cons] at hle
    exact Nat.le_of_succ_le hle
  · exact Nat.zero_le _

theorem targetsOf_cutAtSemicolon (s : List Component) :
    targetsOf (cutAtSemicolon s).1 ++ targetsOf (cutAtSemicolon s).2 = targetsOf s := by
  have hrest : targetsOf ((s.dropWhile (!·.isSemicolon)).drop 1) =
      targetsOf (s.dropWhile (!·.isSemicolon)) := by
    cases hdrop : s.dropWhile (!·.isSemicolon) with
    | nil => rfl
    | cons c rest =>
        obtain ⟨hend, -⟩ := of_dropWhile_eq_cons hdrop
        rw [Component.targetsOf_cons, targets_of_isSemicolon (by simpa using hend)]
        rfl
  rw [cutAtSemicolon, hrest, ← Component.targetsOf_append, List.takeWhile_append_dropWhile]

theorem length_cutAtSemicolon_lt (h : s ≠ []) : (cutAtSemicolon s).2.length < s.length := by
  have hle := length_dropWhile_le (!·.isSemicolon) s
  have hpos := List.length_pos_iff.mpr h
  rw [cutAtSemicolon, List.length_drop]
  omega

theorem length_skipBlanks_le (s : List Component) : (skipBlanks s).length ≤ s.length := by
  induction s with
  | nil => exact Nat.le_refl _
  | cons c rest ih =>
      rw [skipBlanks]
      split
      · exact Nat.le_succ_of_le ih
      · exact Nat.le_refl _

/-! ## Statements -/

theorem targets_statementsFrom {fuel : Nat} (h : s.length < fuel) :
    (statementsFrom fuel s).flatMap Statement.targets = targetsOf s := by
  induction fuel generalizing s with
  | zero => exact absurd h (Nat.not_lt_zero _)
  | succ fuel ih =>
      rw [← Component.targetsOf_skipBlanks]
      have hlen := length_skipBlanks_le s
      rw [statementsFrom]
      split
      · rename_i hskip
        rw [hskip]
        rfl
      · rename_i name text rest hskip
        rw [hskip, List.length_cons] at hlen
        have hrest := length_atRule_le name rest
        have hih := ih (s := (atRule name rest).2) (by omega)
        rw [hskip, List.flatMap_cons, hih]
        exact targets_atRule name rest
      · rename_i text rest hskip
        rw [hskip, List.length_cons] at hlen
        rw [hskip]
        exact ih (s := rest) (by omega)
      · rename_i hne _ _
        have hrest := length_cutAtSemicolon_lt hne
        have hih := ih (s := (cutAtSemicolon (skipBlanks s)).2) (by omega)
        dsimp only
        rw [List.flatMap_cons, hih]
        exact targetsOf_cutAtSemicolon _

/-- The statements of a block have its references. -/
theorem targets_statements (s : List Component) :
    (statements s).flatMap Statement.targets = targetsOf s :=
  targets_statementsFrom (Nat.lt_succ_self _)

/-! ## Blocks of statements -/

theorem targets_of_statement? {α : Type} {out : α → List String} {r : Reader α} {a : α}
    (hr : Carries [] out r) {x : Statement} (h : statement? r x = some a) :
    x.targets <+~ out a := by
  cases x with
  | atRule r => cases h
  | other items => exact hr.of_all? h

theorem flatMap_subperm_of_mapM {α : Type} {out : α → List String} {f : Statement → Option α}
    (hf : ∀ x a, f x = some a → x.targets <+~ out a) {xs : List Statement} {as : List α}
    (h : xs.mapM f = some as) : xs.flatMap Statement.targets <+~ as.flatMap out := by
  induction xs generalizing as with
  | nil => exact List.nil_subperm
  | cons x rest ih =>
      rw [List.mapM_cons] at h
      obtain ⟨a, ha, h⟩ := Option.bind_eq_some_iff.mp h
      obtain ⟨more, hmore, h⟩ := Option.bind_eq_some_iff.mp h
      obtain rfl : a :: more = as := by simpa using h
      rw [List.flatMap_cons, List.flatMap_cons]
      exact List.Subperm.append (hf x a ha) (ih hmore)

/-- If every statement of a block carries its references, so does the block. -/
theorem targetsOf_subperm_of_mapM {α : Type} {out : α → List String} {f : Statement → Option α}
    (hf : ∀ x a, f x = some a → x.targets <+~ out a) {as : List α}
    (h : (statements s).mapM f = some as) : targetsOf s <+~ as.flatMap out :=
  targets_statements s ▸ flatMap_subperm_of_mapM hf h

theorem targetsOf_subperm_of_declarations {ds : List Declaration} (h : declarations s = some ds) :
    targetsOf s <+~ Printed.targets (Declaration.printAll ds) := by
  have hds : targetsOf s <+~ ds.flatMap fun d => Printed.targets d.value :=
    targetsOf_subperm_of_mapM (fun _ _ => targets_of_statement? carries_declaration) h
  exact hds.trans (Declaration.targets_subperm_printAll ds)

end Reader

end Css

end StylePrune
