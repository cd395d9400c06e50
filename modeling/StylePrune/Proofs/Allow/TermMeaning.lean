import StylePrune.Proofs.Allow.TermReading
import StylePrune.Proofs.Pattern.Span

/-!
# The meaning of search terms

What a search term says of the text of a selector, in terms of that text alone, and the
expressions for terms, which say the same.
-/

namespace StylePrune

namespace Allow

open Text Pattern

/-! ## Meaning -/

def EndsName (c : Char) : Prop :=
  isBlank c = true ∨ c = '.' ∨ c = ':' ∨ c = ',' ∨ c = '['

/-- Nothing of a name is left at the start of the text. -/
def AtNameEnd (s : List Char) : Prop :=
  ∀ c ∈ s.head?, EndsName c

/-- The term stands somewhere in the text, and a name ends there. -/
def OccursAsName (term s : List Char) : Prop :=
  ∃ before after, s = before ++ (term ++ after) ∧ AtNameEnd after

/-- Some characters that are no line ends can go so that the rest satisfies `P`. -/
def AfterSkip (P : List Char → Prop) (s : List Char) : Prop :=
  ∃ skipped rest, s = skipped ++ rest ∧ '\n' ∉ skipped ∧ P rest

/-- What is left of the text after the end of a compound: a character, or none at the end. -/
def EndsCompound (s rest : List Char) : Prop :=
  (s = [] ∧ rest = []) ∨ ∃ c, s = c :: rest ∧ (isBlank c = true ∨ c = ',' ∨ c = ':')

/--
The glob, from left to right, matches at the start of the text.  A star after a space needs
the end of a compound, a star at the end takes the rest of a name.
-/
def GlobMatches : List Char → List Char → Prop
  | [], _ => True
  | ' ' :: '*' :: glob, s => ∃ rest, EndsCompound s rest ∧ AfterSkip (GlobMatches glob) rest
  | ['*'], s => ∃ name rest, s = name ++ rest ∧ (∀ c ∈ name, ¬EndsName c) ∧ AtNameEnd rest
  | '*' :: glob, s => AfterSkip (GlobMatches glob) s
  | c :: glob, s => ∃ rest, s = c :: rest ∧ GlobMatches glob rest

/--
A glob with a star in front matches from any place on.  Another one matches from the start,
or after a `.` or `#` there.
-/
def GlobMatchesIn : List Char → List Char → Prop
  | '*' :: c :: glob, s => ∃ before rest, s = before ++ rest ∧ GlobMatches (c :: glob) rest
  | glob, s =>
      GlobMatches glob s ∨ ∃ c rest, s = c :: rest ∧ (c = '.' ∨ c = '#') ∧ GlobMatches glob rest

/-- The term admits the text: a glob as a glob, another one as a name. -/
def TermMatches (term s : List Char) : Prop :=
  if term ≠ ['*'] ∧ '*' ∈ term then GlobMatchesIn term s else OccursAsName term s

/-! ## Sets -/

theorem contains_nameEnds {c : Char} : nameEnds.contains c = true ↔ EndsName c := by
  simp only [nameEnds, List.foldl_cons, List.foldl_nil, CharSet.contains, Property.holds,
    Bool.or_eq_true, CharSet.contains_single, Bool.false_eq_true, false_or, EndsName, or_assoc]

theorem contains_compl_nameEnds {c : Char} :
    (CharSet.compl nameEnds).contains c = true ↔ ¬EndsName c := by
  rw [CharSet.contains, ← contains_nameEnds]
  simp

theorem contains_sigils {c : Char} : sigils.contains c = true ↔ c = '.' ∨ c = '#' := by
  simp only [sigils, List.foldl_cons, List.foldl_nil, CharSet.contains, Bool.or_eq_true,
    CharSet.contains_single, Bool.false_eq_true, false_or]

theorem contains_compl_lineEnd {c : Char} :
    (CharSet.compl (.single '\n')).contains c = true ↔ c ≠ '\n' := by
  rw [CharSet.contains, Bool.not_eq_true', Bool.eq_false_iff, ne_eq, CharSet.contains_single]

/-! ## Expressions -/

section

variable {before rest : List Char} {rs : List Regex}

theorem matchesFrom_set_iff {s : CharSet} :
    Regex.MatchesFrom (.set s :: rs) before rest ↔
      ∃ c v, rest = c :: v ∧ s.contains c = true ∧ Regex.MatchesFrom rs (before ++ [c]) v := by
  simp only [Regex.matchesFrom_cons_iff, Regex.matchesAt_set_iff]
  constructor
  · rintro ⟨u, v, rfl, ⟨c, rfl, hc⟩, hrs⟩
    exact ⟨c, v, rfl, hc, hrs⟩
  · rintro ⟨c, v, rfl, hc, hrs⟩
    exact ⟨[c], v, rfl, ⟨c, rfl, hc⟩, hrs⟩

/-- Skipping leads to whatever the rest needs, if that does not depend on what was skipped. -/
theorem matchesFrom_skip_iff {P : List Char → Prop}
    (h : ∀ before rest, Regex.MatchesFrom rs before rest ↔ P rest) :
    Regex.MatchesFrom (skipRegex :: rs) before rest ↔ AfterSkip P rest := by
  simp only [Regex.matchesFrom_cons_iff, skipRegex, Regex.matchesAt_star_set_iff,
    contains_compl_lineEnd, h, AfterSkip]
  constructor
  · rintro ⟨u, v, rfl, hu, hv⟩
    exact ⟨u, v, rfl, fun hmem => hu _ hmem rfl, hv⟩
  · rintro ⟨u, v, rfl, hu, hv⟩
    refine ⟨u, v, rfl, ?_, hv⟩
    rintro c hc rfl
    exact hu hc

theorem matchesFrom_boundary_iff :
    Regex.MatchesFrom [boundaryRegex] before rest ↔ AtNameEnd rest := by
  simp only [Regex.matchesFrom_cons_iff, boundaryRegex,
    Regex.matchesAt_altAll_iff (List.cons_ne_nil _ _), List.mem_cons, List.not_mem_nil, or_false,
    exists_eq_or_imp, exists_eq_left, Regex.matchesAt_set_iff, Regex.matchesAt_textEnd_iff,
    contains_nameEnds]
  constructor
  · rintro ⟨u, v, rfl, ⟨c, rfl, hc⟩ | ⟨rfl, rfl⟩, -⟩
    · intro x hx
      obtain rfl : c = x := Option.some.inj hx
      exact hc
    · nofun
  · intro h
    cases rest with
    | nil => exact ⟨[], [], rfl, .inr ⟨rfl, rfl⟩, Regex.matchesFrom_nil⟩
    | cons c v => exact ⟨[c], v, rfl, .inl ⟨c, rfl, h c rfl⟩, Regex.matchesFrom_nil⟩

theorem matchesFrom_cons_boundary_iff {r : Regex} :
    Regex.MatchesFrom [r, boundaryRegex] before rest ↔
      ∃ u v, rest = u ++ v ∧ r.MatchesAt before u v ∧ AtNameEnd v := by
  rw [Regex.matchesFrom_cons_iff]
  simp only [matchesFrom_boundary_iff]

theorem matchesFrom_compoundEnd_iff {P : List Char → Prop}
    (h : ∀ before rest, Regex.MatchesFrom rs before rest ↔ P rest) :
    Regex.MatchesFrom (compoundEndRegex :: rs) before rest ↔
      ∃ v, EndsCompound rest v ∧ P v := by
  simp only [Regex.matchesFrom_cons_iff, compoundEndRegex,
    Regex.matchesAt_altAll_iff (List.cons_ne_nil _ _), List.mem_cons, List.not_mem_nil, or_false,
    exists_eq_or_imp, exists_eq_left, Regex.matchesAt_set_iff, Regex.matchesAt_textEnd_iff,
    CharSet.contains, Property.holds, CharSet.contains_single, h, EndsCompound]
  constructor
  · rintro ⟨u, v, rfl, ⟨c, rfl, hc⟩ | ⟨rfl, rfl⟩ | ⟨c, rfl, hc⟩ | ⟨c, rfl, hc⟩, hv⟩
    · exact ⟨v, .inr ⟨c, rfl, .inl hc⟩, hv⟩
    · exact ⟨[], .inl ⟨rfl, rfl⟩, hv⟩
    · exact ⟨v, .inr ⟨c, rfl, .inr (.inl hc)⟩, hv⟩
    · exact ⟨v, .inr ⟨c, rfl, .inr (.inr hc)⟩, hv⟩
  · rintro ⟨v, ⟨rfl, rfl⟩ | ⟨c, rfl, hc⟩, hv⟩
    · exact ⟨[], [], rfl, .inr (.inl ⟨rfl, rfl⟩), hv⟩
    · refine ⟨[c], v, rfl, ?_, hv⟩
      rcases hc with hc | hc | hc
      · exact .inl ⟨c, rfl, hc⟩
      · exact .inr (.inr (.inl ⟨c, rfl, hc⟩))
      · exact .inr (.inr (.inr ⟨c, rfl, hc⟩))

end

/-- The expressions for the tokens of a glob match where the glob does. -/
theorem matchesFrom_tokenRegexes_iff (glob before rest : List Char) :
    Regex.MatchesFrom (tokenRegexes glob) before rest ↔ GlobMatches glob rest := by
  -- The tokens are read along the same cases as the meaning.
  induction glob using GlobToken.ofText.induct generalizing before rest with
  | case1 => exact iff_of_true Regex.matchesFrom_nil trivial
  | case2 glob ih =>
      rw [GlobMatches]
      exact matchesFrom_compoundEnd_iff fun before rest => matchesFrom_skip_iff ih
  | case3 =>
      have htokens : tokenRegexes ['*'] = [.rep (.set (.compl nameEnds)) 0 none, boundaryRegex] :=
        rfl
      rw [GlobMatches, htokens, matchesFrom_cons_boundary_iff]
      simp only [Regex.matchesAt_star_set_iff, contains_compl_nameEnds]
  | case4 glob hne ih =>
      have htokens : tokenRegexes ('*' :: glob) = skipRegex :: tokenRegexes glob := by
        rw [tokenRegexes, GlobToken.ofText.eq_4 glob hne]
        rfl
      rw [GlobMatches.eq_4 rest glob hne, htokens]
      exact matchesFrom_skip_iff ih
  | case5 c glob hspace hend hstar ih =>
      have htokens : tokenRegexes (c :: glob) = .set (.single c) :: tokenRegexes glob := by
        rw [tokenRegexes, GlobToken.ofText.eq_5 c glob hspace hend hstar]
        rfl
      rw [GlobMatches.eq_5 rest c glob hspace hend hstar, htokens, matchesFrom_set_iff]
      simp only [CharSet.contains_single, ih]
      constructor
      · rintro ⟨x, v, rfl, rfl, hv⟩
        exact ⟨v, rfl, hv⟩
      · rintro ⟨v, rfl, hv⟩
        exact ⟨c, v, rfl, rfl, hv⟩

/-- The start of the text, and a `.` or a `#` there. -/
theorem matchesFrom_sigil_iff {rs : List Regex} {before rest : List Char} {P : List Char → Prop}
    (h : ∀ before rest, Regex.MatchesFrom rs before rest ↔ P rest) :
    Regex.MatchesFrom (.look .textStart :: .rep (.set sigils) 0 (some 1) :: rs) before rest ↔
      before = [] ∧ (P rest ∨ ∃ c v, rest = c :: v ∧ (c = '.' ∨ c = '#') ∧ P v) := by
  simp only [Regex.matchesFrom_cons_iff, Regex.matchesAt_textStart_iff,
    Regex.matchesAt_optional_iff, Regex.matchesAt_set_iff, contains_sigils, h]
  constructor
  · rintro ⟨u, v, rfl, ⟨rfl, rfl⟩, u, w, rfl, rfl | ⟨c, rfl, hc⟩, hw⟩
    · exact ⟨rfl, .inl hw⟩
    · exact ⟨rfl, .inr ⟨c, w, rfl, hc, hw⟩⟩
  · rintro ⟨rfl, hrest | ⟨c, v, rfl, hc, hv⟩⟩
    · exact ⟨[], rest, rfl, ⟨rfl, rfl⟩, [], rest, rfl, .inl rfl, hrest⟩
    · exact ⟨[], c :: v, rfl, ⟨rfl, rfl⟩, [c], v, rfl, .inr ⟨c, rfl, hc⟩, hv⟩

/-! ## Order -/

theorem isOrdered_token (t : GlobToken) : ∀ r ∈ t.regexes, r.IsOrdered := by
  have hboundary : boundaryRegex.IsOrdered := ⟨trivial, trivial⟩
  have hskip : skipRegex.IsOrdered := ⟨trivial, nofun⟩
  cases t with
  | literal c => simp [GlobToken.regexes, Regex.IsOrdered]
  | anything => simpa [GlobToken.regexes] using hskip
  | afterSpace =>
      have hend : compoundEndRegex.IsOrdered := ⟨trivial, trivial, trivial, trivial⟩
      simpa [GlobToken.regexes] using ⟨hend, hskip⟩
  | restOfName =>
      simpa [GlobToken.regexes] using And.intro ⟨trivial, nofun⟩ hboundary

theorem isOrdered_globRegexes (glob : List Char) : ∀ r ∈ globRegexes glob, r.IsOrdered := by
  have htokens : ∀ text, ∀ r ∈ tokenRegexes text, r.IsOrdered := by
    intro text r hr
    obtain ⟨t, -, hr⟩ := List.mem_flatMap.mp hr
    exact isOrdered_token t r hr
  unfold globRegexes
  split
  · exact htokens _
  · intro r hr
    rcases List.mem_cons.mp hr with rfl | hr
    · trivial
    · rcases List.mem_cons.mp hr with rfl | hr
      · refine ⟨trivial, ?_⟩
        rintro m ⟨⟩
        decide
      · exact htokens _ r hr

theorem isOrdered_literalsRegexes (terms : List (List Char)) :
    ∀ r ∈ literalsRegexes terms, r.IsOrdered := by
  have hliteral : ∀ t : List Char, (Regex.literal t).IsOrdered := by
    intro t
    refine Regex.isOrdered_seqAll fun r hr => ?_
    obtain ⟨c, -, rfl⟩ := List.mem_map.mp hr
    trivial
  have hterms : (Regex.altAll (terms.map Regex.literal)).IsOrdered := by
    refine Regex.isOrdered_altAll fun r hr => ?_
    obtain ⟨t, -, rfl⟩ := List.mem_map.mp hr
    exact hliteral t
  have hboundary : boundaryRegex.IsOrdered := ⟨trivial, trivial⟩
  simpa [literalsRegexes] using ⟨hterms, hboundary⟩

/-! ## Terms -/

theorem isMatch_globRegexes_iff (glob : List Char) (text : String) :
    (Regex.seqAll (globRegexes glob)).isMatch text = true ↔ GlobMatchesIn glob text.toList := by
  rw [Regex.isMatch_seqAll_iff (isOrdered_globRegexes glob)]
  fun_cases globRegexes glob with
  | case1 c rest => simp only [matchesFrom_tokenRegexes_iff, GlobMatchesIn]
  | case2 glob hne =>
      rw [GlobMatchesIn.eq_2 glob _ hne]
      simp only [matchesFrom_sigil_iff (matchesFrom_tokenRegexes_iff glob)]
      constructor
      · rintro ⟨before, rest, htext, rfl, h⟩
        rwa [htext]
      · intro h
        exact ⟨[], text.toList, rfl, rfl, h⟩

theorem isMatch_literalsRegexes_iff {terms : List (List Char)} (hne : terms ≠ [])
    (text : String) :
    (Regex.seqAll (literalsRegexes terms)).isMatch text = true ↔
      ∃ t ∈ terms, OccursAsName t text.toList := by
  have halts : terms.map Regex.literal ≠ [] := by simpa using hne
  rw [Regex.isMatch_seqAll_iff (isOrdered_literalsRegexes terms)]
  simp only [literalsRegexes, matchesFrom_cons_boundary_iff, Regex.matchesAt_altAll_iff halts,
    List.mem_map, OccursAsName]
  constructor
  · rintro ⟨before, rest, htext, u, v, rfl, ⟨r, ⟨t, ht, rfl⟩, hu⟩, hv⟩
    obtain rfl := Regex.matchesAt_literal_iff.mp hu
    exact ⟨u, ht, before, v, htext, hv⟩
  · rintro ⟨t, ht, before, v, htext, hv⟩
    exact ⟨before, t ++ v, htext, t, v, rfl,
      ⟨_, ⟨t, ht, rfl⟩, Regex.matchesAt_literal_iff.mpr rfl⟩, hv⟩

theorem isOrdered_literalsAlternative (terms : List (List Char)) :
    ∀ r ∈ literalsAlternative terms, r.IsOrdered := by
  intro r hr
  cases terms with
  | nil => simp [literalsAlternative] at hr
  | cons t rest =>
      obtain rfl := List.mem_singleton.mp hr
      exact Regex.isOrdered_seqAll (isOrdered_literalsRegexes _)

theorem isOrdered_globs (terms : List (List Char)) :
    ∀ r ∈ terms.map fun glob => Regex.seqAll (globRegexes glob), r.IsOrdered := by
  intro r hr
  obtain ⟨glob, -, rfl⟩ := List.mem_map.mp hr
  exact Regex.isOrdered_seqAll (isOrdered_globRegexes glob)

theorem isOrdered_globsAlternative (terms : List (List Char)) :
    ∀ r ∈ globsAlternative terms, r.IsOrdered := by
  intro r hr
  cases terms with
  | nil => simp [globsAlternative] at hr
  | cons t rest =>
      obtain rfl := List.mem_singleton.mp hr
      exact Regex.isOrdered_altAll (isOrdered_globs (t :: rest))

theorem exists_isMatch_literalsAlternative_iff (terms : List (List Char)) (text : String) :
    (∃ r ∈ literalsAlternative terms, r.isMatch text = true) ↔
      ∃ t ∈ terms, OccursAsName t text.toList := by
  cases terms with
  | nil => simp [literalsAlternative]
  | cons t rest =>
      rw [← isMatch_literalsRegexes_iff (List.cons_ne_nil t rest)]
      simp [literalsAlternative]

theorem exists_isMatch_globsAlternative_iff (terms : List (List Char)) (text : String) :
    (∃ r ∈ globsAlternative terms, r.isMatch text = true) ↔
      ∃ t ∈ terms, GlobMatchesIn t text.toList := by
  cases terms with
  | nil => simp [globsAlternative]
  | cons t rest =>
      have hone : globsAlternative (t :: rest) =
          [.altAll ((t :: rest).map fun glob => .seqAll (globRegexes glob))] := rfl
      simp only [hone, List.mem_singleton, exists_eq_left]
      rw [Regex.isMatch_altAll_iff (by simp) (isOrdered_globs (t :: rest))]
      constructor
      · rintro ⟨r, hr, h⟩
        obtain ⟨glob, hglob, rfl⟩ := List.mem_map.mp hr
        exact ⟨glob, hglob, (isMatch_globRegexes_iff glob text).mp h⟩
      · rintro ⟨glob, hglob, h⟩
        exact ⟨_, List.mem_map_of_mem hglob, (isMatch_globRegexes_iff glob text).mpr h⟩

theorem isGlob_iff {t : List Char} : isGlob t = true ↔ t ≠ ['*'] ∧ '*' ∈ t := by
  simp [isGlob]

/-- The expression for some terms matches the texts that one of the terms admits. -/
theorem isMatch_termsRegex_iff {terms : List (List Char)} (hne : terms ≠ []) (text : String) :
    (termsRegex terms).isMatch text = true ↔ ∃ t ∈ terms, TermMatches t text.toList := by
  have hordered : ∀ r ∈ termsAlternatives terms, r.IsOrdered := by
    intro r hr
    rw [termsAlternatives_eq] at hr
    exact (List.mem_append.mp hr).elim (isOrdered_literalsAlternative _ r)
      (isOrdered_globsAlternative _ r)
  have halts : termsAlternatives terms ≠ [] := mt termsAlternatives_eq_nil_iff.mp hne
  rw [termsRegex, Regex.isMatch_altAll_iff halts hordered, termsAlternatives_eq]
  simp only [List.mem_append, or_and_right, exists_or, exists_isMatch_literalsAlternative_iff,
    exists_isMatch_globsAlternative_iff, List.mem_filter, Bool.not_eq_true', TermMatches,
    ← isGlob_iff]
  constructor
  · rintro (⟨t, ⟨ht, hglob⟩, h⟩ | ⟨t, ⟨ht, hglob⟩, h⟩)
    · exact ⟨t, ht, by simpa [hglob] using h⟩
    · exact ⟨t, ht, by simpa [hglob] using h⟩
  · rintro ⟨t, ht, h⟩
    cases hglob : isGlob t with
    | false => exact .inl ⟨t, ⟨ht, hglob⟩, by simpa [hglob] using h⟩
    | true => exact .inr ⟨t, ⟨ht, hglob⟩, by simpa [hglob] using h⟩

end Allow

end StylePrune
