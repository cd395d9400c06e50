import StylePrune.Proofs.Url.Location

/-!
# Resolution of references

Which references of a stylesheet are completed by its directory, and to what.  The completed
reference keeps the scheme and the authority of a stylesheet that has a path; where the path is
empty the reference takes the place of the authority.  A reference is completed once: after that
it is relative to nothing.
-/

namespace StylePrune

namespace Url

open Text

variable {base u v : List Char}

theorem rebase?_eq_some_iff :
    rebase? base u = some v ↔ base ≠ [] ∧ isRelative u = true ∧ v = base ++ trim u := by
  unfold rebase?
  by_cases hbase : base = []
  · simp [hbase]
  · cases isRelative u <;> simp [hbase, @eq_comm _ v]

theorem rebase?_of_not_isRelative (h : isRelative u = false) (base : List Char) :
    rebase? base u = none := by
  rw [rebase?, h, Bool.not_false, Bool.or_true, if_pos rfl]

/-! ## Stylesheets with an authority -/

theorem Location.baseOf_text_ne_nil (l : Location) : baseOf l.text ≠ [] := by
  by_cases hpath : l.path = []
  · rw [l.baseOf_text_of_no_path hpath]
    simp [Location.lead]
  · obtain ⟨dir, name, heq, hname⟩ := l.exists_path_eq hpath
    rw [l.baseOf_text_of_path heq hname]
    simp

/--
Exactly the path references are completed.  With a path, the scheme, the authority and the path
up to its last slash come in front of the reference without its blanks.  Without a path only the
scheme comes in front of it, and the authority is lost.
-/
theorem rebase?_baseOf_text (l : Location) (u : List Char) :
    ((rebase? (baseOf l.text) u).isSome = true ↔ IsPathReference (trim u)) ∧
      ∀ v, rebase? (baseOf l.text) u = some v →
        (l.path ≠ [] → ∃ dir name, l.path = dir ++ '/' :: name ∧ '/' ∉ name ∧
          v = l.lead ++ l.authority ++ dir ++ '/' :: trim u) ∧
        (l.path = [] → v = l.lead ++ trim u) := by
  refine ⟨?_, fun v hv => ?_⟩
  · rw [Option.isSome_iff_exists, ← isRelative_iff]
    constructor
    · rintro ⟨v, hv⟩
      exact (rebase?_eq_some_iff.mp hv).2.1
    · intro hrelative
      exact ⟨_, rebase?_eq_some_iff.mpr ⟨l.baseOf_text_ne_nil, hrelative, rfl⟩⟩
  · obtain ⟨-, -, rfl⟩ := rebase?_eq_some_iff.mp hv
    refine ⟨fun hpath => ?_, fun hpath => ?_⟩
    · obtain ⟨dir, name, heq, hname⟩ := l.exists_path_eq hpath
      refine ⟨dir, name, heq, hname, ?_⟩
      rw [l.baseOf_text_of_path heq hname]
      simp
    · rw [l.baseOf_text_of_no_path hpath]

/-- A stylesheet in a directory, with slashes in its query. -/
def themeLocation : Location where
  scheme := "http".toList
  authority := "example.com:80".toList
  path := "/a:b/style.css".toList
  query := some "v=x/y".toList
  fragment := none
  scheme_valid := by decide
  authority_ne_nil := by decide
  authority_valid := by simp
  path_rooted := .inr ⟨_, rfl⟩
  path_valid := by simp

/-- Only the slashes of the path count. -/
theorem rebase?_baseOf_text_theme :
    themeLocation.text = "http://example.com:80/a:b/style.css?v=x/y".toList ∧
      IsPathReference (trim " img/c:d.png#e ".toList) ∧
      ∃ v dir name, rebase? (baseOf themeLocation.text) " img/c:d.png#e ".toList = some v ∧
        themeLocation.path = dir ++ '/' :: name ∧ '/' ∉ name ∧
        v = "http://example.com:80".toList ++ dir ++ "/img/c:d.png#e".toList := by
  have hpath : IsPathReference (trim " img/c:d.png#e ".toList) := isRelative_iff.mp (by decide)
  obtain ⟨hsome, hvalue⟩ := rebase?_baseOf_text themeLocation " img/c:d.png#e ".toList
  obtain ⟨v, hv⟩ := Option.isSome_iff_exists.mp (hsome.mpr hpath)
  obtain ⟨dir, name, heq, hname, rfl⟩ := (hvalue v hv).1 (by decide)
  exact ⟨by decide, hpath, _, dir, name, hv, heq, hname, rfl⟩

/-- A stylesheet that is the answer to a query at the root. -/
def rootLocation : Location where
  scheme := "http".toList
  authority := "example.com".toList
  path := []
  query := some "css=1".toList
  fragment := none
  scheme_valid := by decide
  authority_ne_nil := by decide
  authority_valid := by simp
  path_rooted := .inl rfl
  path_valid := by simp

/-- The first part of the path is taken for the authority. -/
theorem rebase?_rootLocation_loses_authority :
    rootLocation.text = "http://example.com?css=1".toList ∧
      IsPathReference (trim "img/a.png".toList) ∧
      rebase? (baseOf rootLocation.text) "img/a.png".toList = some "http://img/a.png".toList ∧
      rebase? (baseOf rootLocation.text) "img/a.png".toList ≠
        some (rootLocation.lead ++ rootLocation.authority ++ '/' :: trim "img/a.png".toList) := by
  refine ⟨by decide, isRelative_iff.mp (by decide), by decide, by decide⟩

/-! ## A second completion -/

/--
What was completed by the directory of a stylesheet that is not relative itself is not relative,
so no directory completes it again, and no run of completions changes it.
-/
theorem rebase?_reaches_fixpoint {sheet u v : List Char} (hsheet : isRelative sheet = false)
    (hv : rebase? (baseOf sheet) u = some v) :
    isRelative v = false ∧ (∀ base, rebase? base v = none) ∧
      ∀ bases : List (List Char), bases.foldl (fun w base => rebase base w) v = v := by
  obtain ⟨hbase, -, rfl⟩ := rebase?_eq_some_iff.mp hv
  have hfixed : isRelative (baseOf sheet ++ trim u) = false := by
    rw [isRelative_baseOf_append hbase, hsheet]
  refine ⟨hfixed, rebase?_of_not_isRelative hfixed, fun bases => ?_⟩
  induction bases with
  | nil => rfl
  | cons base rest ih => rw [List.foldl_cons, rebase_of_not_isRelative hfixed, ih]

/-- Blanks in front of a stylesheet's URL hide neither its scheme nor its authority. -/
theorem rebase?_reaches_fixpoint_blanks :
    isRelative " //cdn.example.com/a.css?b/c".toList = false ∧
      rebase? (baseOf " //cdn.example.com/a.css?b/c".toList) "../i.png".toList =
        some " //cdn.example.com/../i.png".toList ∧
      rebase? "http://example.com/".toList " //cdn.example.com/../i.png".toList = none := by
  have hsheet : isRelative " //cdn.example.com/a.css?b/c".toList = false := by decide
  have hv : rebase? (baseOf " //cdn.example.com/a.css?b/c".toList) "../i.png".toList =
      some " //cdn.example.com/../i.png".toList := by decide
  exact ⟨hsheet, hv, (rebase?_reaches_fixpoint hsheet hv).2.1 _⟩

end Url

end StylePrune
