import StylePrune.Proofs.Text.Blank
import StylePrune.Url.Reference

/-!
# References in front of their directory

Whether a reference with a directory in front is relative is settled by the directory.  So a
stylesheet whose own URL is not relative has no relative references after they were rebased.
-/

namespace StylePrune

namespace Url

open Text

/-- A character of a path, before a query or a fragment. -/
def isPathChar (c : Char) : Bool :=
  c != '?' && c != '#'

variable {d base target url : List Char}

/-! ## Rebasing -/

theorem rebase_of_isRelative (hbase : base ≠ []) (h : isRelative target = true) :
    rebase base target = base ++ trim target := by
  have hempty : base.isEmpty = false := by simpa using hbase
  rw [rebase, rebase?, hempty, h]
  rfl

theorem rebase_of_not_isRelative (h : isRelative target = false) :
    rebase base target = target := by
  rw [rebase, rebase?, h, Bool.not_false, Bool.or_true]
  rfl

/-! ## Directories -/

/-- The directory of a stylesheet ends with a slash, and its URL starts with it. -/
theorem exists_of_baseOf_ne_nil (h : baseOf url ≠ []) :
    ∃ d rest, baseOf url = d ++ ['/'] ∧ url = d ++ '/' :: rest ∧ ∀ c ∈ d, isPathChar c = true := by
  have hne : (pathPart url).reverse.dropWhile (· != '/') ≠ [] := by
    simpa [baseOf, directoryPart] using h
  obtain ⟨c, up, hdrop⟩ := List.exists_cons_of_ne_nil hne
  have hslash : c = '/' := by
    have hhead := List.head?_dropWhile_not (· != '/') (pathPart url).reverse
    rw [hdrop] at hhead
    simpa using hhead
  subst hslash
  obtain ⟨name, hpath⟩ : ∃ name, pathPart url = up.reverse ++ '/' :: name := by
    have hsplit := List.takeWhile_append_dropWhile (p := (· != '/')) (l := (pathPart url).reverse)
    rw [hdrop] at hsplit
    have hrev := congrArg List.reverse hsplit
    exact ⟨_, by simpa using hrev.symm⟩
  have hurl : pathPart url ++ url.dropWhile isPathChar = url := List.takeWhile_append_dropWhile
  refine ⟨up.reverse, name ++ url.dropWhile isPathChar, ?_, ?_, ?_⟩
  · rw [baseOf, directoryPart, hdrop, List.reverse_cons]
  · calc url = pathPart url ++ url.dropWhile isPathChar := hurl.symm
      _ = _ := by rw [hpath, List.append_assoc, List.cons_append]
  · intro c hc
    have hmem : c ∈ pathPart url := by
      rw [hpath]
      exact List.mem_append_left _ hc
    exact List.all_eq_true.mp (List.all_takeWhile (p := isPathChar)) c hmem

theorem dropBlanks_append_slash (d rest : List Char) :
    dropBlanks (d ++ '/' :: rest) = dropBlanks d ++ '/' :: rest := by
  have hslash : isBlank '/' = false := by decide
  rw [dropBlanks, dropBlanks, List.dropWhile_append]
  split
  · rename_i hempty
    rw [List.isEmpty_iff.mp hempty, List.nil_append]
    exact dropBlanks_cons_of_not_isBlank hslash rest
  · rfl

/-- Trimming stops at a slash. -/
theorem trim_append_slash (d rest : List Char) :
    trim (d ++ '/' :: rest) = dropBlanks d ++ '/' :: trimEnd rest := by
  have hend : trimEnd ('/' :: rest) = '/' :: trimEnd rest :=
    trimEnd_cons_of_not_isBlank (by decide) rest
  rw [trim_eq_trimEnd, dropBlanks_append_slash, trimEnd_append, hend]
  simp

theorem pathPart_append_slash (hd : ∀ c ∈ d, isPathChar c = true) (rest : List Char) :
    pathPart (d ++ '/' :: rest) = d ++ '/' :: pathPart rest := by
  have happend : (d ++ '/' :: rest).takeWhile isPathChar =
      d ++ ('/' :: rest).takeWhile isPathChar := List.takeWhile_append_of_pos hd
  exact happend

theorem isScheme_eq_false_of_mem_slash {s : List Char} (h : '/' ∈ s) : isScheme s = false := by
  cases s with
  | nil => cases h
  | cons c rest =>
      rcases List.mem_cons.mp h with rfl | h
      · rfl
      · rw [isScheme, Bool.and_eq_false_iff]
        exact .inr (List.all_eq_false.mpr ⟨'/', h, by decide⟩)

/-- A scheme stands before the first slash. -/
theorem hasScheme_append_slash (d rest : List Char) :
    hasScheme (d ++ '/' :: rest) = hasScheme d := by
  rw [hasScheme, hasScheme]
  by_cases hcolon : ':' ∈ d
  · have hlength : (d.takeWhile (· != ':')).length ≠ d.length := by
      intro heq
      have hself := (List.takeWhile_prefix (p := (· != ':')) (l := d)).eq_of_length heq
      rw [← hself] at hcolon
      simpa using List.all_eq_true.mp List.all_takeWhile _ hcolon
    rw [List.takeWhile_append, if_neg hlength]
    simp [hcolon]
  · have hslash : isScheme ((d ++ '/' :: rest).takeWhile (· != ':')) = false := by
      refine isScheme_eq_false_of_mem_slash ?_
      have hd : ∀ c ∈ d, (c != ':') = true := by
        intro c hc
        rw [bne_iff_ne]
        rintro rfl
        exact hcolon hc
      rw [List.takeWhile_append_of_pos hd]
      exact List.mem_append_right _ List.mem_cons_self
    rw [hslash, Bool.and_false, List.contains_eq_mem, decide_eq_false hcolon, Bool.false_and]

theorem startsWith_slash_append (d rest : List Char) :
    startsWith ['/'] (d ++ '/' :: rest) = startsWith ['/'] (d ++ ['/']) := by
  cases d <;> rfl

theorem startsWith_slash_of_slashes (h : startsWith ['/', '/'] url = true) :
    startsWith ['/'] url = true := by
  rw [startsWith, List.isPrefixOf_iff_prefix] at h ⊢
  exact (List.prefix_append ['/'] ['/']).trans h

/-- What stands after the last slash of a directory does not matter. -/
theorem isRelative_append_slash (hd : ∀ c ∈ d, isPathChar c = true) (rest : List Char) :
    isRelative (d ++ '/' :: rest) =
      (!hasScheme (dropBlanks d) && !startsWith ['/'] (dropBlanks d ++ ['/'])) := by
  have hpath : ∀ c ∈ dropBlanks d, isPathChar c = true :=
    fun c hc => hd c ((List.dropWhile_sublist _).mem hc)
  have hslashes : startsWith ['/', '/'] (dropBlanks d ++ '/' :: trimEnd rest) = true →
      startsWith ['/'] (dropBlanks d ++ ['/']) = true := by
    intro h
    rw [← startsWith_slash_append]
    exact startsWith_slash_of_slashes h
  rw [isRelative, trim_append_slash, hasScheme_append_slash, pathPart_append_slash hpath,
    startsWith_slash_append]
  cases hasScheme (dropBlanks d) <;>
    cases hs : startsWith ['/'] (dropBlanks d ++ ['/']) <;> simp_all

theorem isRelative_baseOf_append (h : baseOf url ≠ []) (s : List Char) :
    isRelative (baseOf url ++ s) = isRelative url := by
  obtain ⟨d, rest, hbase, hurl, hd⟩ := exists_of_baseOf_ne_nil h
  rw [hbase, List.append_assoc, List.singleton_append, isRelative_append_slash hd, hurl,
    isRelative_append_slash hd]

/-- How a reference is written in the tree of a stylesheet whose URL has a directory. -/
structure Relocated (sheet target written : List Char) : Prop where
  of_isRelative : isRelative target = true → written = baseOf sheet ++ trim target
  of_not_isRelative : isRelative target = false → written = target
  not_isRelative : isRelative sheet = false → isRelative written = false

theorem relocated_rebase (h : baseOf url ≠ []) (target : List Char) :
    Relocated url target (rebase (baseOf url) target) where
  of_isRelative := rebase_of_isRelative h
  of_not_isRelative := rebase_of_not_isRelative
  not_isRelative hurl := by
    cases htarget : isRelative target with
    | true => rw [rebase_of_isRelative h htarget, isRelative_baseOf_append h, hurl]
    | false => rw [rebase_of_not_isRelative htarget, htarget]

end Url

end StylePrune
