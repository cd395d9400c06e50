import StylePrune.Css.Verbatim
import StylePrune.Proofs.Css.Measures

/-!
# Values that are kept as they are carry their references

What is not understood keeps every reference, in functions and blocks and in the values that
stand in for variables.
-/

namespace StylePrune

namespace Css

open scoped List
open Component (targetsOf)

namespace Atom

def targets : Atom → List String
  | .solid p => p.targets
  | .bracketEnd p => p.targets
  | _ => []

@[simp] theorem targets_print (layout : Layout) (spaced : Bool) (atoms : List Atom) :
    Printed.targets (print layout spaced atoms) = atoms.flatMap targets := by
  induction atoms generalizing spaced with
  | nil => rfl
  | cons a rest ih =>
      rw [List.flatMap_cons]
      cases a with
      | space => exact ih true
      | comma => exact ih true
      | delim c => exact ih true
      | solid p =>
          rw [print, Printed.targets_append, ih]
          rfl
      | bracketEnd p =>
          rw [print]
          split
          · rw [Printed.targets_append, Printed.targets_text, ih]
            rfl
          · rw [Printed.targets_append, ih]
            rfl

/-- Spaces at the ends hold no references. -/
theorem targets_trim (atoms : List Atom) :
    (trim atoms).flatMap targets = atoms.flatMap targets := by
  have hlast : ∀ xs : List Atom, xs.getLast? = some .space →
      xs.dropLast.flatMap targets = xs.flatMap targets := by
    intro xs h
    obtain ⟨front, rfl⟩ := List.getLast?_eq_some_iff.mp h
    rw [List.dropLast_concat, List.flatMap_append]
    simp [targets]
  unfold trim
  split
  · rfl
  · dsimp only
    split
    · rename_i h
      rw [hlast _ h]
      split
      · rfl
      · rfl
    · split
      · rfl
      · rfl

theorem targets_of_ofToken {t : Token} {a : Atom} (h : ofToken t = some a) (text : List Char) :
    (Component.token t text).targets = a.targets := by
  cases t with
  | hash name isId =>
      rw [ofToken] at h
      split at h
      · cases h
        rfl
      · cases h
        rfl
  | function name => cases h
  | opening b => cases h
  | closing b => cases h
  | badUrl => cases h
  | badString => cases h
  | _ =>
      cases h
      rfl

/-- The three ways to keep components with some fuel. -/
structure Keeps (layout : Layout) (fuel : Nat) : Prop where
  components : ∀ {afterDelim items atoms}, ofComponents layout fuel afterDelim items = some atoms →
    targetsOf items <+~ atoms.flatMap targets
  function : ∀ {name items p}, ofFunction layout fuel name items = some p →
    targetsOf items <+~ Printed.targets p
  fallback : ∀ {items p}, ofFallback layout fuel items = some p →
    targetsOf items <+~ Printed.targets p

namespace Keeps

variable {layout : Layout} {fuel : Nat}

theorem fallback_succ (h : Keeps layout fuel) {items : List Component} {p : Printed}
    (hp : ofFallback layout (fuel + 1) items = some p) : targetsOf items <+~ Printed.targets p := by
  rw [ofFallback] at hp
  rw [← Component.targetsOf_skipBlanks]
  split at hp
  · cases hp
  · rename_i hnone
    unfold fallbackOf at hnone
    split at hnone
    · rename_i hnil
      rw [hnil]
      exact List.nil_subperm
    · split at hnone <;> cases hnone
  · rename_i value hvalue
    unfold fallbackOf at hvalue
    split at hvalue
    · cases hvalue
    · rename_i c rest hrest
      split at hvalue
      · rename_i hcomma
        obtain rfl : rest = value := by simpa using hvalue
        obtain ⟨atoms, hatoms, hp⟩ := Option.bind_eq_some_iff.mp hp
        cases hp
        have hsub := h.components hatoms
        rw [hrest, Component.targetsOf_cons, Component.targets_of_isComma hcomma]
        simpa [targets_trim] using hsub
      · cases hvalue

theorem function_succ (h : Keeps layout fuel) {name : String} {items : List Component}
    {p : Printed} (hp : ofFunction layout (fuel + 1) name items = some p) :
    targetsOf items <+~ Printed.targets p := by
  rw [ofFunction] at hp
  split at hp
  · rw [← Component.targetsOf_skipBlanks]
    split at hp
    · rename_i key text rest hrest
      split at hp
      · obtain ⟨fallback, hfallback, hp⟩ := Option.bind_eq_some_iff.mp hp
        cases hp
        rw [hrest]
        simpa [Component.targets] using h.fallback hfallback
      · cases hp
    · cases hp
  · split at hp
    · rw [← Component.targetsOf_skipBlanks]
      split at hp
      · rename_i key text rest hrest
        obtain ⟨⟨indices, rest'⟩, hindices, hp⟩ := Option.bind_eq_some_iff.mp hp
        obtain ⟨fallback, hfallback, hp⟩ := Option.bind_eq_some_iff.mp hp
        cases hp
        have hmany : Reader.many Reader.integer rest = .ok (indices, rest') := by
          cases hr : Reader.many Reader.integer rest with
          | error e => simp [hr, Except.toOption] at hindices
          | ok found => simpa [hr, Except.toOption] using hindices
        -- The numbers hold no references, so those of the fallback are all.
        have hsub := (Reader.silent_integer.many hmany).trans (h.fallback hfallback)
        rw [hrest]
        simpa [Component.targets] using hsub
      · cases hp
    · obtain ⟨atoms, hatoms, hp⟩ := Option.bind_eq_some_iff.mp hp
      cases hp
      simpa [targets_trim] using h.components hatoms

theorem call_subperm (h : Keeps layout fuel) {name : String} {text : List Char}
    {items : List Component} {closed : Bool} {p : Printed} (hname : name ≠ "url")
    (hp : ofFunction layout fuel name items = some p) :
    (Component.function name text items closed).targets <+~ Printed.targets p := by
  rw [Component.targets, if_neg hname]
  split
  · exact List.nil_subperm
  · exact h.function hp

theorem blank_cons_succ (h : Keeps layout fuel) {afterDelim : Bool} {c : Component}
    {rest : List Component} {atoms : List Atom} (hblank : c.isBlank = true)
    (hatoms : ofComponents layout (fuel + 1) afterDelim (c :: rest) = some atoms) :
    targetsOf (c :: rest) <+~ atoms.flatMap targets := by
  unfold ofComponents at hatoms
  rw [if_pos hblank] at hatoms
  rw [Component.targetsOf_cons, Component.targets_of_isBlank hblank, List.nil_append]
  split at hatoms
  · exact h.components hatoms
  · split at hatoms
    · split at hatoms
      · exact h.components hatoms
      · obtain ⟨more, hmore, rfl⟩ := Option.map_eq_some_iff.mp hatoms
        simpa [targets] using h.components hmore
    · exact List.nil_subperm

theorem block_cons_succ (h : Keeps layout fuel) {afterDelim : Bool} {kind : Bracket}
    {items rest : List Component} {closed : Bool} {atoms : List Atom}
    (hatoms : ofComponents layout (fuel + 1) afterDelim (.block kind items closed :: rest) =
      some atoms) :
    targetsOf (.block kind items closed :: rest) <+~ atoms.flatMap targets := by
  unfold ofComponents at hatoms
  rw [if_neg (by simp [Component.isBlank])] at hatoms
  obtain ⟨inner, hinner, hatoms⟩ := Option.bind_eq_some_iff.mp hatoms
  obtain ⟨more, hmore, hatoms⟩ := Option.bind_eq_some_iff.mp hatoms
  cases hatoms
  have hblock := h.components hinner
  have hrest := h.components hmore
  rw [Component.targetsOf_cons, Component.targets_block, List.cons_append, List.flatMap_cons,
    List.flatMap_append, List.flatMap_cons, ← List.append_assoc]
  exact (subperm_append_of_subperm_right _ hblock).append
    (subperm_append_of_subperm_right _ hrest)

/-- A colour is written without references, and `url()` is a reference of its own. -/
theorem function_cons_succ (h : Keeps layout fuel) {afterDelim : Bool} {name : String}
    {text : List Char} {items rest : List Component} {closed : Bool} {atoms : List Atom}
    (hatoms : ofComponents layout (fuel + 1) afterDelim (.function name text items closed :: rest) =
      some atoms) :
    targetsOf (.function name text items closed :: rest) <+~ atoms.flatMap targets := by
  unfold ofComponents at hatoms
  rw [if_neg (by simp [Component.isBlank])] at hatoms
  rw [Component.targetsOf_cons]
  dsimp only at hatoms
  split at hatoms
  · rename_i color hcolor
    obtain ⟨more, hmore, hatoms⟩ := Option.bind_eq_some_iff.mp hatoms
    cases hatoms
    rw [Reader.targets_of_colorFunction? hcolor, List.nil_append, List.flatMap_cons]
    exact subperm_append_of_subperm_right _ (h.components hmore)
  · split at hatoms
    · rename_i hname
      obtain ⟨target, htarget, hatoms⟩ := Option.bind_eq_some_iff.mp hatoms
      obtain ⟨more, hmore, hatoms⟩ := Option.bind_eq_some_iff.mp hatoms
      cases hatoms
      rw [Component.targets, if_pos hname, htarget, List.flatMap_cons]
      exact List.Subperm.append (List.Subperm.refl _) (h.components hmore)
    · rename_i hname
      obtain ⟨call, hcall, hatoms⟩ := Option.bind_eq_some_iff.mp hatoms
      obtain ⟨more, hmore, hatoms⟩ := Option.bind_eq_some_iff.mp hatoms
      cases hatoms
      rw [List.flatMap_cons]
      exact List.Subperm.append (h.call_subperm hname hcall) (h.components hmore)

theorem components_succ (h : Keeps layout fuel) {afterDelim : Bool} {items : List Component}
    {atoms : List Atom} (hatoms : ofComponents layout (fuel + 1) afterDelim items = some atoms) :
    targetsOf items <+~ atoms.flatMap targets := by
  cases items with
  | nil => exact List.nil_subperm
  | cons c rest =>
      by_cases hblank : c.isBlank = true
      · exact h.blank_cons_succ hblank hatoms
      cases c with
      | token t text =>
          unfold ofComponents at hatoms
          rw [if_neg hblank] at hatoms
          obtain ⟨a, ha, hatoms⟩ := Option.bind_eq_some_iff.mp hatoms
          obtain ⟨more, hmore, hatoms⟩ := Option.bind_eq_some_iff.mp hatoms
          cases hatoms
          rw [Component.targetsOf_cons, targets_of_ofToken ha text, List.flatMap_cons]
          exact List.Subperm.append (List.Subperm.refl _) (h.components hmore)
      | block kind items closed => exact h.block_cons_succ hatoms
      | function name text items closed => exact h.function_cons_succ hatoms

end Keeps

theorem keeps (layout : Layout) (fuel : Nat) : Keeps layout fuel := by
  induction fuel with
  | zero =>
      refine ⟨fun h => ?_, fun h => ?_, fun h => ?_⟩
      · rw [ofComponents] at h
        cases h
      · rw [ofFunction] at h
        cases h
      · rw [ofFallback] at h
        cases h
  | succ fuel ih => exact ⟨ih.components_succ, ih.function_succ, ih.fallback_succ⟩

end Atom

/-- A value that is kept as it is keeps its references. -/
theorem targets_of_verbatim? {layout : Layout} {items : List Component} {p : Printed}
    (h : verbatim? layout items = some p) : targetsOf items <+~ Printed.targets p := by
  obtain ⟨atoms, hatoms, hp⟩ := Option.bind_eq_some_iff.mp h
  cases hp
  rw [Atom.targets_print, Atom.targets_trim]
  exact (Atom.keeps layout _).components hatoms

end Css

end StylePrune
