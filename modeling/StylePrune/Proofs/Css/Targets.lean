import Mathlib.Data.List.Perm.Subperm
import StylePrune.Css.Declaration

/-!
# Targets of references

The targets of the references in components and in printed text.  A set of images offers its
references for several resolutions and keeps them as they are, so it is not looked into; nor is
a quoted reference whose `url` is not in lower case, which may be a function of any name.
-/

namespace StylePrune

namespace Css

open scoped List

/-! ## Lists of targets -/

section

variable {xs ys zs : List String}

theorem subperm_append_of_subperm_left (zs : List String) (h : xs <+~ ys) : xs <+~ ys ++ zs :=
  h.trans (List.sublist_append_left ys zs).subperm

theorem subperm_append_of_subperm_right (ys : List String) (h : xs <+~ zs) : xs <+~ ys ++ zs :=
  h.trans (List.sublist_append_right ys zs).subperm

theorem flatMap_subperm_flatMap {α : Type} {f g : α → List String} {as : List α}
    (h : ∀ a ∈ as, f a <+~ g a) : as.flatMap f <+~ as.flatMap g := by
  induction as with
  | nil => exact List.nil_subperm
  | cons a rest ih =>
      obtain ⟨ha, hrest⟩ := List.forall_mem_cons.mp h
      rw [List.flatMap_cons, List.flatMap_cons]
      exact ha.append (ih hrest)

end

namespace Component

/-- The functions that offer images for several resolutions. -/
def isImageSet (name : String) : Bool :=
  name == "image-set" || name == "-webkit-image-set"

mutual

/-- The targets of the references in a component, at all depths. -/
def targets : Component → List String
  | .token t _ =>
      match t with
      | .url target => [target]
      | _ => []
  | .block _ items _ => targetsOf items
  | .function name _ items _ =>
      if name = "url" then (Reader.all? Reader.string items).toList
      else if isImageSet (Text.lower name) then []
      else targetsOf items

def targetsOf : List Component → List String
  | [] => []
  | c :: rest => targets c ++ targetsOf rest

end

@[simp] theorem targetsOf_nil : targetsOf [] = [] := rfl

@[simp] theorem targetsOf_cons (c : Component) (rest : List Component) :
    targetsOf (c :: rest) = c.targets ++ targetsOf rest := rfl

theorem targetsOf_eq_flatMap (items : List Component) :
    targetsOf items = items.flatMap targets := by
  induction items with
  | nil => rfl
  | cons c rest ih => rw [targetsOf_cons, ih, List.flatMap_cons]

@[simp] theorem targetsOf_append (xs ys : List Component) :
    targetsOf (xs ++ ys) = targetsOf xs ++ targetsOf ys := by
  simp only [targetsOf_eq_flatMap, List.flatMap_append]

@[simp] theorem targets_block (kind : Bracket) (items : List Component) (closed : Bool) :
    (block kind items closed).targets = targetsOf items := rfl

theorem targets_of_isBlank {c : Component} (h : c.isBlank = true) : c.targets = [] := by
  fun_cases isBlank c with
  | case1 => rfl
  | case2 => rfl
  | case3 => simp_all [isBlank]

theorem isBlank_of_isComment {c : Component} (h : c.isComment = true) : c.isBlank = true := by
  fun_cases isComment c with
  | case1 => rfl
  | case2 => simp_all [isComment]

@[simp] theorem targetsOf_skipBlanks (s : List Component) :
    targetsOf (Reader.skipBlanks s) = targetsOf s := by
  induction s with
  | nil => rfl
  | cons c rest ih =>
      rw [Reader.skipBlanks]
      split
      · rename_i h
        rw [ih, targetsOf_cons, targets_of_isBlank h, List.nil_append]
      · rfl

@[simp] theorem targetsOf_skipComments (s : List Component) :
    targetsOf (Reader.skipComments s) = targetsOf s := by
  induction s with
  | nil => rfl
  | cons c rest ih =>
      rw [Reader.skipComments]
      split
      · rename_i h
        rw [ih, targetsOf_cons, targets_of_isBlank (isBlank_of_isComment h), List.nil_append]
      · rfl

theorem targets_of_isComma {c : Component} (h : c.isComma = true) : c.targets = [] := by
  fun_cases isComma c with
  | case1 => rfl
  | case2 => simp_all [isComma]

/-- Commas hold no references. -/
theorem targetsOf_splitCommas (s : List Component) :
    (splitCommas s).flatMap targetsOf = targetsOf s := by
  induction s with
  | nil => rfl
  | cons c rest ih =>
      rw [splitCommas, targetsOf_cons, ← ih]
      split
      · rename_i h
        rw [List.flatMap_cons, targets_of_isComma h]
        rfl
      · split
        · rename_i h
          simp [h]
        · rename_i h
          simp [h]

end Component

namespace Piece

def target? : Piece → Option String
  | text _ => none
  | url target => some target

end Piece

namespace Printed

def targets (p : Printed) : List String :=
  p.filterMap Piece.target?

@[simp] theorem targets_nil : targets [] = [] := rfl

@[simp] theorem targets_text (s : String) (p : Printed) :
    targets (.text s :: p) = targets p := rfl

@[simp] theorem targets_url (target : String) (p : Printed) :
    targets (.url target :: p) = target :: targets p := rfl

@[simp] theorem targets_append (p q : Printed) : targets (p ++ q) = targets p ++ targets q :=
  List.filterMap_append

@[simp] theorem targets_ofText (s : String) : targets (ofText s) = [] := rfl

@[simp] theorem targets_joinWith (separator : String) (ps : List Printed) :
    targets (joinWith separator ps) = ps.flatMap targets := by
  induction ps with
  | nil => rfl
  | cons p rest ih =>
      cases rest with
      | nil => simp [joinWith]
      | cons q rest =>
          rw [joinWith, targets_append, targets_text, ih]
          · rfl
          · simp

@[simp] theorem targets_flatten (ps : List Printed) :
    targets ps.flatten = ps.flatMap targets := by
  induction ps with
  | nil => rfl
  | cons p rest ih => rw [List.flatten_cons, targets_append, ih, List.flatMap_cons]

@[simp] theorem targets_flatMap {α : Type} (f : α → Printed) (xs : List α) :
    targets (xs.flatMap f) = xs.flatMap fun x => targets (f x) := by
  rw [List.flatMap_def, targets_flatten, List.flatMap_map]

end Printed

end Css

end StylePrune
