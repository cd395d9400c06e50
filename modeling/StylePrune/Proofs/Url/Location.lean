import StylePrune.Proofs.Url.Reference

/-!
# Locations

The URL of a stylesheet by its components, its directory, and the references that a directory
completes: those that start with a path of their own.
-/

namespace StylePrune

namespace Url

open Text

/-! ## Path references -/

/-- A reference without scheme and authority whose path is there and does not start at the root. -/
structure IsPathReference (u : List Char) : Prop where
  noScheme : ¬ ∃ scheme rest, u = scheme ++ ':' :: rest ∧ isScheme scheme = true
  noAuthority : ¬ ['/', '/'] <+: u
  relativePath : ∃ path tail, u = path ++ tail ∧ (∀ c ∈ path, c ≠ '?' ∧ c ≠ '#') ∧
    (∀ c ∈ tail.head?, c = '?' ∨ c = '#') ∧ path ≠ [] ∧ ¬ ['/'] <+: path

theorem isPathChar_iff {c : Char} : isPathChar c = true ↔ c ≠ '?' ∧ c ≠ '#' := by
  simp [isPathChar]

theorem isPathChar_eq_false_iff {c : Char} : isPathChar c = false ↔ c = '?' ∨ c = '#' := by
  by_cases h : c = '?' <;> simp [isPathChar, h]

/-- The path of a text ends where a query or a fragment starts. -/
theorem pathPart_append {path tail : List Char} (hpath : ∀ c ∈ path, isPathChar c = true)
    (htail : ∀ c ∈ tail.head?, isPathChar c = false) : pathPart (path ++ tail) = path := by
  have happend : (path ++ tail).takeWhile isPathChar = path ++ tail.takeWhile isPathChar :=
    List.takeWhile_append_of_pos hpath
  have hstop : tail.takeWhile isPathChar = [] := by
    cases tail with
    | nil => rfl
    | cons c rest => rw [List.takeWhile_cons_of_neg (by simp [htail c rfl])]
  exact happend.trans (by rw [hstop, List.append_nil])

/-- Every text is its path and what starts with a query or a fragment. -/
theorem exists_eq_pathPart_append (u : List Char) :
    ∃ tail, u = pathPart u ++ tail ∧ (∀ c ∈ pathPart u, isPathChar c = true) ∧
      ∀ c ∈ tail.head?, isPathChar c = false := by
  refine ⟨u.dropWhile isPathChar, List.takeWhile_append_dropWhile.symm, ?_, ?_⟩
  · exact List.all_eq_true.mp (List.all_takeWhile (p := isPathChar))
  · intro c hc
    have hhead := List.head?_dropWhile_not isPathChar u
    rw [Option.mem_def.mp hc] at hhead
    simpa using hhead

theorem isSchemeChar_of_isScheme {scheme : List Char} (h : isScheme scheme = true) :
    ∀ c ∈ scheme, isSchemeChar c = true := by
  cases scheme with
  | nil => exact List.forall_mem_nil _
  | cons first rest =>
      rw [isScheme, Bool.and_eq_true] at h
      intro c hc
      rcases List.mem_cons.mp hc with rfl | hc
      · simp [isSchemeChar, isAsciiAlphanumeric, h.1]
      · exact List.all_eq_true.mp h.2 c hc

/-- A scheme ends at the first colon. -/
theorem takeWhile_append_colon {front : List Char} (h : ':' ∉ front) (rest : List Char) :
    (front ++ ':' :: rest).takeWhile (· != ':') = front := by
  have hne : ∀ c ∈ front, (c != ':') = true := by
    intro c hc
    rw [bne_iff_ne]
    rintro rfl
    exact h hc
  rw [List.takeWhile_append_of_pos hne]
  simp

theorem hasScheme_iff {u : List Char} :
    hasScheme u = true ↔ ∃ scheme rest, u = scheme ++ ':' :: rest ∧ isScheme scheme = true := by
  rw [hasScheme, Bool.and_eq_true, List.contains_iff_mem]
  constructor
  · rintro ⟨hcolon, hscheme⟩
    obtain ⟨front, rest, rfl, hfront⟩ := List.eq_append_cons_of_mem hcolon
    rw [takeWhile_append_colon hfront] at hscheme
    exact ⟨front, rest, rfl, hscheme⟩
  · rintro ⟨scheme, rest, rfl, hscheme⟩
    have hfront : ':' ∉ scheme := fun hmem =>
      absurd (isSchemeChar_of_isScheme hscheme ':' hmem) (by decide)
    exact ⟨by simp, by rw [takeWhile_append_colon hfront, hscheme]⟩

/-- The references that are relative to a directory are the ones with a path of their own. -/
theorem isRelative_iff {u : List Char} : isRelative u = true ↔ IsPathReference (trim u) := by
  generalize htrim : trim u = t
  have hrelative : isRelative u = true ↔ ¬ hasScheme t = true ∧ ¬ ['/', '/'] <+: t ∧
      pathPart t ≠ [] ∧ ¬ ['/'] <+: pathPart t := by
    simp [isRelative, htrim, startsWith, ← List.isPrefixOf_iff_prefix, and_assoc]
  rw [hrelative, hasScheme_iff]
  constructor
  · rintro ⟨hscheme, hauthority, hne, hroot⟩
    obtain ⟨tail, heq, hpath, htail⟩ := exists_eq_pathPart_append t
    refine ⟨hscheme, hauthority, pathPart t, tail, heq, ?_, ?_, hne, hroot⟩
    · exact fun c hc => isPathChar_iff.mp (hpath c hc)
    · exact fun c hc => isPathChar_eq_false_iff.mp (htail c hc)
  · rintro ⟨hscheme, hauthority, path, tail, heq, hpath, htail, hne, hroot⟩
    have hpart : pathPart t = path := by
      rw [heq]
      exact pathPart_append (fun c hc => isPathChar_iff.mpr (hpath c hc))
        fun c hc => isPathChar_eq_false_iff.mpr (htail c hc)
    rw [hpart]
    exact ⟨hscheme, hauthority, hne, hroot⟩

/-! ## Directories of locations -/

/-- The directory of a path ends with its last slash. -/
theorem directoryPart_append_slash (dir : List Char) {name : List Char} (h : '/' ∉ name) :
    directoryPart (dir ++ '/' :: name) = dir ++ ['/'] := by
  have hne : ∀ c ∈ name.reverse, (c != '/') = true := by
    intro c hc
    rw [bne_iff_ne]
    rintro rfl
    exact h (List.mem_reverse.mp hc)
  have hdrop : (dir ++ '/' :: name).reverse.dropWhile (· != '/') = '/' :: dir.reverse := by
    rw [List.reverse_append, List.reverse_cons, List.append_assoc, List.dropWhile_append_of_pos hne]
    simp
  rw [directoryPart, hdrop, List.reverse_cons, List.reverse_reverse]

/-- An absolute URL with an authority, by its components. -/
structure Location where
  scheme : List Char
  authority : List Char
  path : List Char
  query : Option (List Char)
  fragment : Option (List Char)
  scheme_valid : isScheme scheme = true
  authority_ne_nil : authority ≠ []
  authority_valid : ∀ c ∈ authority, c ≠ '/' ∧ c ≠ '?' ∧ c ≠ '#'
  path_rooted : path = [] ∨ ∃ rest, path = '/' :: rest
  path_valid : ∀ c ∈ path, c ≠ '?' ∧ c ≠ '#'

namespace Location

/-- The scheme, with what stands between it and the authority. -/
def lead (l : Location) : List Char :=
  l.scheme ++ [':', '/', '/']

def suffix (l : Location) : List Char :=
  l.query.elim [] ('?' :: ·) ++ l.fragment.elim [] ('#' :: ·)

def text (l : Location) : List Char :=
  l.lead ++ l.authority ++ l.path ++ l.suffix

/-- Neither the scheme nor the authority nor the path starts a query or a fragment. -/
theorem pathPart_text (l : Location) : pathPart l.text = l.lead ++ l.authority ++ l.path := by
  refine pathPart_append ?_ ?_
  · intro c hc
    rw [isPathChar_iff]
    simp only [lead, List.mem_append] at hc
    rcases hc with ((hc | hc) | hc) | hc
    · have hchar := isSchemeChar_of_isScheme l.scheme_valid c hc
      constructor <;> (rintro rfl; exact absurd hchar (by decide))
    · constructor <;> (rintro rfl; exact absurd hc (by decide))
    · exact (l.authority_valid c hc).2
    · exact l.path_valid c hc
  · intro c hc
    rw [isPathChar_eq_false_iff]
    cases hq : l.query with
    | some query => exact .inl (by simpa [suffix, hq, eq_comm] using hc)
    | none =>
        cases hf : l.fragment with
        | some fragment => exact .inr (by simpa [suffix, hq, hf, eq_comm] using hc)
        | none => simp [suffix, hq, hf] at hc

/-- A path that is there has a last slash. -/
theorem exists_path_eq (l : Location) (h : l.path ≠ []) :
    ∃ dir name, l.path = dir ++ '/' :: name ∧ '/' ∉ name := by
  obtain ⟨rest, hpath⟩ := l.path_rooted.resolve_left h
  have hmem : '/' ∈ l.path.reverse := by
    rw [hpath, List.mem_reverse]
    exact List.mem_cons_self
  obtain ⟨front, back, hreverse, hfront⟩ := List.eq_append_cons_of_mem hmem
  refine ⟨back.reverse, front.reverse, ?_, by rwa [List.mem_reverse]⟩
  rw [← List.reverse_reverse l.path, hreverse]
  simp

/-- The directory of a location with a path keeps its scheme and its authority. -/
theorem baseOf_text_of_path (l : Location) {dir name : List Char}
    (hpath : l.path = dir ++ '/' :: name) (hname : '/' ∉ name) :
    baseOf l.text = l.lead ++ l.authority ++ dir ++ ['/'] := by
  rw [baseOf, pathPart_text, hpath, ← List.append_assoc, directoryPart_append_slash _ hname]

/-- Without a path the authority counts as the name of a file. -/
theorem baseOf_text_of_no_path (l : Location) (h : l.path = []) : baseOf l.text = l.lead := by
  have hauthority : '/' ∉ l.authority := fun hmem => (l.authority_valid _ hmem).1 rfl
  have hsplit : l.lead ++ l.authority = (l.scheme ++ [':', '/']) ++ '/' :: l.authority := by
    simp [lead]
  rw [baseOf, pathPart_text, h, List.append_nil, hsplit, directoryPart_append_slash _ hauthority]
  simp [lead]

end Location

end Url

end StylePrune
