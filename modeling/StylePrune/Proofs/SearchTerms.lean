import StylePrune.Proofs.Allow.TermMeaning
import StylePrune.Proofs.Text.Blank

/-!
# Search terms mean what they say

An entry without a pattern of its own compiles to a rule that admits exactly the texts that
one of its terms admits, unless the pattern for the terms is too large for the engine.
-/

namespace StylePrune

namespace Allow

open Text Pattern

theorem mem_cleanTerms {search : List String} {t : List Char} :
    t ∈ cleanTerms search ↔ ∃ term ∈ search, trim term.toList ≠ [] ∧ t = trim term.toList := by
  simp only [cleanTerms, List.mem_filter, List.mem_map, bne_iff_ne]
  constructor
  · rintro ⟨⟨term, hterm, rfl⟩, hne⟩
    exact ⟨term, hterm, hne, rfl⟩
  · rintro ⟨term, hterm, hne, rfl⟩
    exact ⟨⟨term, hterm, rfl⟩, hne⟩

theorem cleanTerms_ne_nil_iff {search : List String} :
    cleanTerms search ≠ [] ↔ ∃ term ∈ search, trim term.toList ≠ [] := by
  constructor
  · intro h
    obtain ⟨t, ht⟩ := List.exists_mem_of_ne_nil _ h
    obtain ⟨term, hterm, hne, -⟩ := mem_cleanTerms.mp ht
    exact ⟨term, hterm, hne⟩
  · rintro ⟨term, hterm, hne⟩
    exact List.ne_nil_of_mem (mem_cleanTerms.mpr ⟨term, hterm, hne, rfl⟩)

theorem compile_singleton {engine : Engine} {e : Entry} {id url : String}
    (h : e.IsInForce id url) :
    compile engine [e] id url = (e.compile engine).map fun rule => [rule] := by
  have hfilter : [e].filter (fun e => e.appliesTo id url && e.hasItsClass) = [e] := by
    simp [h.1, h.2]
  rw [compile, hfilter, List.mapM_cons, List.mapM_nil]
  cases e.compile engine <;> rfl

/--
What the search terms of an entry mean: the entry is refused with the text of its pattern if
the engine finds the pattern too large.  Otherwise it makes one rule, which has a matcher if
some term is not blank, and which matches the texts that one of those terms admits.
-/
theorem compile_searchTerms (engine : Engine) {e : Entry} {id url : String}
    (hforce : e.IsInForce id url) (hraw : e.searchPattern = none) :
    (e.IsTooLarge engine →
      ∃ source, e.patternText? = some source ∧ compile engine [e] id url = .error ⟨source⟩) ∧
    (¬e.IsTooLarge engine →
      ∃ rule, compile engine [e] id url = .ok [rule] ∧ rule.kind = e.kind ∧
        rule.className = e.className ∧
        (rule.matcher.isSome = true ↔ ∃ term ∈ e.search, trim term.toList ≠ []) ∧
        ∀ selector : String, rule.isMatch selector = true ↔
          ∃ term ∈ e.search, trim term.toList ≠ [] ∧
            TermMatches (trim term.toList) selector.toList) := by
  rw [compile_singleton hforce, ← cleanTerms_ne_nil_iff]
  by_cases hclean : cleanTerms e.search = []
  · -- Without terms there is no pattern that could be too large.
    have hnone := Entry.patternText?_of_blank hraw hclean
    have hsmall : ¬e.IsTooLarge engine := by
      rintro ⟨source, hsource, -⟩
      rw [hnone] at hsource
      cases hsource
    refine ⟨fun h => absurd h hsmall, fun _ => ?_⟩
    rw [Entry.compile_eq_of_blank engine hraw hclean]
    refine ⟨_, rfl, rfl, rfl, by simp [hclean], fun selector => ?_⟩
    refine iff_of_false Bool.false_ne_true ?_
    rintro ⟨term, hterm, hne, -⟩
    exact cleanTerms_ne_nil_iff.mpr ⟨term, hterm, hne⟩ hclean
  · obtain ⟨source, hsource, hcompile⟩ := Entry.compile_eq_of_terms engine hraw hclean
    rw [hcompile]
    constructor
    · rintro ⟨source', hsource', hlarge⟩
      obtain rfl : source = source' := Option.some.inj (hsource.symm.trans hsource')
      rw [hlarge]
      exact ⟨source, hsource, rfl⟩
    · intro hsmall
      have hfits : engine.fits source = true := by
        refine Bool.not_eq_false _ ▸ fun hlarge => ?_
        exact hsmall ⟨source, hsource, hlarge⟩
      rw [if_pos hfits]
      refine ⟨_, rfl, rfl, rfl, by simp [hclean], fun selector => ?_⟩
      refine (isMatch_termsRegex_iff hclean selector).trans ?_
      simp only [mem_cleanTerms]
      constructor
      · rintro ⟨t, ⟨term, hterm, hne, rfl⟩, h⟩
        exact ⟨term, hterm, hne, h⟩
      · rintro ⟨term, hterm, hne, h⟩
        exact ⟨_, ⟨term, hterm, hne, rfl⟩, h⟩

/-- Buttons of any kind, and a state of any element. -/
def buttonEntry : Entry :=
  .any ["btn-*", " .active "]

/-- An engine that takes some hundred thousand characters of a pattern. -/
def boundedEngine : Engine :=
  .upTo 300000 (by decide)

theorem compile_searchTerms_buttons :
    buttonEntry.IsInForce "theme" "" ∧ buttonEntry.searchPattern = none ∧
      ¬buttonEntry.IsTooLarge boundedEngine ∧
      ∃ rule, compile boundedEngine [buttonEntry] "theme" "" = .ok [rule] ∧
        rule.isMatch ".btn-primary:hover" = true ∧
        rule.isMatch ".card .btn-primary" = false := by
  have hsmall : ¬buttonEntry.IsTooLarge boundedEngine := by
    rintro ⟨source, hsource, hlarge⟩
    have hfits : ∀ source ∈ buttonEntry.patternText?, boundedEngine.fits source = true := by
      decide +kernel
    rw [hfits source hsource] at hlarge
    cases hlarge
  have hbutton : trim "btn-*".toList = ['b', 't', 'n', '-', '*'] := by decide +kernel
  have hactive : trim " .active ".toList = ['.', 'a', 'c', 't', 'i', 'v', 'e'] := by
    decide +kernel
  have hforce : buttonEntry.IsInForce "theme" "" := ⟨rfl, rfl⟩
  obtain ⟨-, hcompile⟩ := compile_searchTerms boundedEngine hforce rfl
  obtain ⟨rule, hrule, -, -, -, hmatch⟩ := hcompile hsmall
  refine ⟨hforce, rfl, hsmall, rule, hrule, ?_, Bool.eq_false_iff.mpr ?_⟩
  · have hselector : ".btn-primary:hover".toList =
        '.' :: 'b' :: 't' :: 'n' :: '-' :: (['p', 'r', 'i', 'm', 'a', 'r', 'y'] ++
          [':', 'h', 'o', 'v', 'e', 'r']) := by
      decide
    refine (hmatch _).mpr ⟨"btn-*", List.mem_cons_self, ?_⟩
    rw [hbutton, hselector]
    refine ⟨List.cons_ne_nil _ _, ?_⟩
    rw [TermMatches, if_pos (by decide)]
    refine .inr ⟨'.', _, rfl, .inl rfl, _, rfl, _, rfl, _, rfl, _, rfl, _, _, rfl, ?_, ?_⟩
    · simp [EndsName, isBlank]
    · intro c hc
      obtain rfl : ':' = c := Option.some.inj hc
      exact .inr (.inr (.inl rfl))
  · have hselector : ".card .btn-primary".toList =
        ['.', 'c', 'a', 'r', 'd', ' ', '.', 'b', 't', 'n', '-', 'p', 'r', 'i', 'm', 'a', 'r',
          'y'] := by
      decide
    intro h
    obtain ⟨term, hterm, -, hm⟩ := (hmatch _).mp h
    rw [hselector] at hm
    have hcases : term = "btn-*" ∨ term = " .active " := by
      simpa [buttonEntry, Entry.any] using hterm
    rcases hcases with rfl | rfl
    · -- A glob without a star in front starts with the text.
      rw [hbutton, TermMatches, if_pos (by decide)] at hm
      rcases hm with ⟨v, hv, -⟩ | ⟨c, rest, hrest, -, v, hv, -⟩
      · simp at hv
      · simp [hv] at hrest
    · -- The other term has a letter that the text does not have.
      rw [hactive, TermMatches, if_neg (by decide)] at hm
      obtain ⟨before, after, heq, -⟩ := hm
      have hmem : 'v' ∈ before ++ (['.', 'a', 'c', 't', 'i', 'v', 'e'] ++ after) := by simp
      rw [← heq] at hmem
      exact absurd hmem (by decide)

/-! ## Terms that are too long -/

theorem length_le_length_escapeText (s : List Char) : s.length ≤ (escapeText s).length := by
  induction s with
  | nil => exact Nat.le_refl _
  | cons c rest ih =>
      have hletter : 1 ≤ (if isMeta c then ['\\', c] else [c]).length := by
        split <;> exact Nat.succ_le_succ (Nat.zero_le _)
      rw [escapeText, List.flatMap_cons, List.length_append, List.length_cons]
      exact Nat.add_comm 1 _ ▸ Nat.add_le_add hletter ih

/-- The pattern for one literal term is at least as long as the term. -/
theorem exists_patternText?_literal {term : List Char} (hne : term ≠ [])
    (hblank : ∀ c ∈ term, isBlank c = false) (hstar : '*' ∉ term) :
    ∃ source, (Entry.any [String.ofList term]).patternText? = some source ∧
      term.length ≤ source.length := by
  have hclean : cleanTerms [String.ofList term] = [term] := by
    simp [cleanTerms, trim_of_not_isBlank hblank, hne]
  have hglob : isGlob term = false := by
    simp [isGlob, hstar]
  have htext : patternText? [String.ofList term] none =
      some (alternatives [escapeText term] ++ boundary) := by
    simp [patternText?, hclean, hglob, literalPattern?, globsPattern?, eitherPattern?]
  refine ⟨String.ofList (alternatives [escapeText term] ++ boundary),
    congrArg (Option.map String.ofList) htext, ?_⟩
  have hescape := length_le_length_escapeText term
  have hgroup : (alternatives [escapeText term]).length = (escapeText term).length + 4 := by
    simp [alternatives, List.intercalate]
  rw [String.length_ofList, List.length_append]
  omega

/-- A term of half a million letters. -/
def longTerm : List Char :=
  List.replicate 500000 'a'

theorem compile_longTerm_eq_error :
    (Entry.any [String.ofList longTerm]).IsInForce "" "" ∧
      (Entry.any [String.ofList longTerm]).searchPattern = none ∧
      ∃ err, compile boundedEngine [Entry.any [String.ofList longTerm]] "" "" = .error err := by
  have hforce : (Entry.any [String.ofList longTerm]).IsInForce "" "" := ⟨rfl, rfl⟩
  have hlength : longTerm.length = 500000 := List.length_replicate
  obtain ⟨source, hsource, hlong⟩ : ∃ source,
      (Entry.any [String.ofList longTerm]).patternText? = some source ∧
        longTerm.length ≤ source.length := by
    refine exists_patternText?_literal (fun h => ?_) (fun c hc => ?_) fun h => ?_
    · rw [h] at hlength
      cases hlength
    · obtain rfl := List.eq_of_mem_replicate hc
      rfl
    · exact absurd (List.eq_of_mem_replicate h) (by decide)
  have hlarge : boundedEngine.fits source = false := by
    refine decide_eq_false ?_
    omega
  have hbroken : boundedEngine.regex? source = none := by
    rw [Engine.regex?, hlarge]
    rfl
  exact ⟨hforce, rfl, compile_eq_error_iff.mpr
    ⟨_, List.mem_cons_self, hforce, source, hsource, hbroken⟩⟩

end Allow

end StylePrune
