import StylePrune.Proofs.Pattern.Wrapping
import StylePrune.Proofs.SearchTerms

/-!
# Patterns beside search terms

An entry with both a pattern of its own and search terms admits what the pattern alone or one
of the terms admits, unless the pattern ends in a comment.  The comment then takes the end of
the group that the pattern is put into, and the entry is refused.
-/

namespace StylePrune

namespace Allow

open Text Pattern

def literalsRegex (terms : List (List Char)) : Regex :=
  .seqAll (literalsRegexes terms)

theorem isMatch_alt_iff (r s : Regex) (text : String) :
    (Regex.alt r s).isMatch text = true ↔ r.isMatch text = true ∨ s.isMatch text = true := by
  simp only [Regex.isMatch, Regex.ends, bne_iff_ne, ← Positions.exists_has_iff,
    Positions.has_or, exists_or]

theorem parse?_eq_some_iff {pattern : String} {r : Regex} :
    parse? pattern = some r ↔ ∃ p, read? pattern.toList = some p ∧
      p.depth ≤ nestLimit ∧ r = p.regex := by
  rw [parse?_eq, Option.bind_eq_some_iff]
  constructor
  · rintro ⟨p, hp, hr⟩
    split at hr
    · rename_i hnest
      exact ⟨p, hp, hnest, (Option.some.inj hr).symm⟩
    · cases hr
  · rintro ⟨p, hp, hnest, rfl⟩
    exact ⟨p, hp, if_pos hnest⟩

theorem Engine.regex?_eq_some_iff {engine : Engine} {source : String} {r : Regex} :
    engine.regex? source = some r ↔ engine.fits source = true ∧ parse? source = some r := by
  unfold Engine.regex?
  split
  · rename_i hfits
    simp [hfits]
  · rename_i hfits
    simp [hfits]

/-- Behind the terms and the bar, the terms are one piece, nested less deeply than the limit. -/
theorem leads_literalPattern? {terms : List (List Char)} {text : List Char}
    (h : literalPattern? terms = some text) :
    ∃ p : Piece, p.regex = literalsRegex terms ∧ p.depth ≤ 11 ∧
      Leads State.initial (alternatives [text] ++ ['|'])
        { State.initial with group := ⟨[p], [], .initial⟩ } := by
  obtain ⟨r, hr, hreads⟩ : ∃ r, literalsAlternative terms = [r] ∧
      ReadsAlternatives text [r] 9 := by
    have hoption := readsOption_literalPattern? terms
    rw [h] at hoption
    exact hoption
  have hgroup : Reads (alternatives [text]) [r] 11 := by
    simpa [alternatives, List.intercalate, Regex.altAll] using hreads.group
  obtain ⟨ps, hps, hdepth, hleads⟩ := hgroup
  obtain ⟨p, rfl, rfl⟩ : ∃ p, ps = [p] ∧ p.regex = r := by
    simpa using List.map_eq_singleton_iff.mp hps
  refine ⟨p, ?_, hdepth p List.mem_cons_self, (hleads .initial rfl).trans (leads_bar _ rfl)⟩
  unfold literalsAlternative at hr
  split at hr
  · cases hr
  · exact (List.cons.inj hr).1.symm

/-- What a pattern behind literal terms is read as. -/
theorem parse?_combined_iff {terms : List (List Char)} {text raw : List Char}
    (h : literalPattern? terms = some text) (hclose : ¬ClosesTooMuch raw) {r : Regex} :
    parse? (String.ofList (alternatives [text] ++ ['|'] ++ alternatives [raw])) = some r ↔
      ¬EndsInComment raw ∧ ∃ p, read? raw = some p ∧ p.depth + 2 ≤ nestLimit ∧
        r = .alt (literalsRegex terms) p.regex := by
  obtain ⟨first, hfirst, hdepth, hleads⟩ := leads_literalPattern? h
  have hraw : alternatives [raw] = ['(', '?', ':'] ++ raw ++ [')'] := by
    simp [alternatives, List.intercalate]
  have hpiece (p : Piece) :
      (OpenGroup.add ⟨[first], [], .initial⟩ ⟨p.regex, p.depth + 1⟩).piece =
        ⟨.alt (literalsRegex terms) p.regex, max (max 0 first.depth) (p.depth + 1) + 1⟩ := by
    rw [← hfirst]
    rfl
  have hlimit (p : Piece) :
      max (max 0 first.depth) (p.depth + 1) + 1 ≤ nestLimit ↔ p.depth + 2 ≤ nestLimit := by
    unfold nestLimit
    omega
  rw [parse?_eq_some_iff, String.toList_ofList, hraw]
  simp only [read?_group_iff hleads hclose, hpiece]
  constructor
  · rintro ⟨q, ⟨hcomment, p, hp, rfl⟩, hnest, rfl⟩
    exact ⟨hcomment, p, hp, (hlimit p).mp hnest, rfl⟩
  · rintro ⟨hcomment, p, hp, hnest, rfl⟩
    exact ⟨_, ⟨hcomment, p, hp, rfl⟩, (hlimit p).mpr hnest, rfl⟩

namespace Entry

def withoutTerms (e : Entry) : Entry :=
  { e with search := [] }

/--
The pattern of the entry is nested no deeper than allowed beside the terms, and the pattern for
both is not too large.
-/
def FitsTogether (engine : Engine) (e : Entry) (p : Piece) : Prop :=
  p.depth + 2 ≤ nestLimit ∧ ∀ source, e.patternText? = some source → engine.fits source = true

/-- The rule of an entry with a pattern to match. -/
theorem compile_eq_ok_iff (engine : Engine) {e : Entry} {id url source : String}
    (hforce : e.IsInForce id url) (hsource : e.patternText? = some source) (rule : Rule) :
    Allow.compile engine [e] id url = .ok [rule] ↔
      ∃ r, engine.fits source = true ∧ Pattern.parse? source = some r ∧
        rule = ⟨e.kind, e.className, some ⟨source, r⟩⟩ := by
  rw [compile_singleton hforce, compile, matcher, hsource]
  simp only [← and_assoc, ← Engine.regex?_eq_some_iff]
  cases hp : engine.regex? source with
  | none => simp [Except.map]
  | some r => simp [Except.map, eq_comm]

theorem patternText?_withoutTerms {e : Entry} {raw : String} (hraw : e.searchPattern = some raw) :
    e.withoutTerms.patternText? = some raw := by
  simp [withoutTerms, patternText?, hraw, Allow.patternText?, cleanTerms, literalPattern?,
    eitherPattern?]

theorem compile_withoutTerms_eq_ok_iff (engine : Engine) {e : Entry} {id url raw : String}
    (hforce : e.IsInForce id url) (hraw : e.searchPattern = some raw) (rule : Rule) :
    Allow.compile engine [e.withoutTerms] id url = .ok [rule] ↔
      ∃ r, engine.fits raw = true ∧ Pattern.parse? raw = some r ∧
        rule = ⟨e.kind, e.className, some ⟨raw, r⟩⟩ :=
  compile_eq_ok_iff engine (e := e.withoutTerms) hforce (patternText?_withoutTerms hraw) rule

/-- The pattern is put behind the terms, each of the two in a group. -/
theorem patternText?_eq_of_terms {e : Entry} {raw : String} (hraw : e.searchPattern = some raw)
    (hterms : cleanTerms e.search ≠ []) :
    ∃ text, literalPattern? (cleanTerms e.search) = some text ∧
      e.patternText? =
        some (String.ofList (alternatives [text] ++ ['|'] ++ alternatives [raw.toList])) := by
  have htext : literalPattern? (cleanTerms e.search) = some
      (alternatives ((cleanTerms e.search).map escapeText) ++ boundary) :=
    if_neg (by simpa using hterms)
  refine ⟨_, htext, ?_⟩
  rw [patternText?, hraw, Allow.patternText?, htext]
  rfl

end Entry

/--
An entry with a pattern and a search term that is not blank is compiled if its pattern alone
is, does not end in a comment, and fits with the terms.  Only a pattern that closes a group
too much, or that is too large for the engine, can be refused alone and compiled with the terms.
The rule for both matches what the rule for the pattern matches and what one of the terms
admits.
-/
theorem compile_combined (engine : Engine) {e : Entry} {id url raw : String}
    (hforce : e.IsInForce id url) (hraw : e.searchPattern = some raw)
    (hterm : ∃ term ∈ e.search, trim term.toList ≠ []) :
    ((∃ rule, compile engine [e] id url = .ok [rule]) ∧ ¬ClosesTooMuch raw.toList ∧
        engine.fits raw = true ↔
      (∃ rule, compile engine [e.withoutTerms] id url = .ok [rule]) ∧
        ¬EndsInComment raw.toList ∧
        ∃ p, read? raw.toList = some p ∧ e.FitsTogether engine p) ∧
    ∀ rule alone, compile engine [e] id url = .ok [rule] →
      compile engine [e.withoutTerms] id url = .ok [alone] → ∀ selector : String,
        rule.isMatch selector = true ↔ alone.isMatch selector = true ∨
          ∃ term ∈ e.search, trim term.toList ≠ [] ∧
            OccursAsName (trim term.toList) selector.toList := by
  have hclean := cleanTerms_ne_nil_iff.mpr hterm
  obtain ⟨text, htext, hsource⟩ := e.patternText?_eq_of_terms hraw hclean
  have hboth := Entry.compile_eq_ok_iff engine hforce hsource
  have halone := Entry.compile_withoutTerms_eq_ok_iff engine hforce hraw
  -- A pattern that is read alone closes only what it opens, so it is read in a group as well.
  have hclose {p : Piece} (hp : read? raw.toList = some p) : ¬ClosesTooMuch raw.toList :=
    not_closesTooMuch_of_read? hp
  refine ⟨⟨?_, ?_⟩, ?_⟩
  · rintro ⟨⟨rule, hrule⟩, hclose, hfits⟩
    obtain ⟨r, htogether, hr, -⟩ := (hboth _).mp hrule
    obtain ⟨hcomment, p, hp, hnest, -⟩ := (parse?_combined_iff htext hclose).mp hr
    have hread : parse? raw = some p.regex :=
      parse?_eq_some_iff.mpr ⟨p, hp, by omega, rfl⟩
    refine ⟨⟨_, (halone _).mpr ⟨_, hfits, hread, rfl⟩⟩, hcomment, p, hp, hnest, ?_⟩
    intro source hsource'
    obtain rfl := Option.some.inj (hsource.symm.trans hsource')
    exact htogether
  · rintro ⟨⟨rule, hrule⟩, hcomment, p, hp, hnest, htogether⟩
    obtain ⟨-, hfits, -⟩ := (halone _).mp hrule
    have hread := (parse?_combined_iff htext (hclose hp)).mpr ⟨hcomment, p, hp, hnest, rfl⟩
    exact ⟨⟨_, (hboth _).mpr ⟨_, htogether _ hsource, hread, rfl⟩⟩, hclose hp, hfits⟩
  · intro rule alone hrule hrule' selector
    obtain ⟨r, -, hr, rfl⟩ := (hboth _).mp hrule
    obtain ⟨r', -, hr', rfl⟩ := (halone _).mp hrule'
    obtain ⟨p, hp, -, rfl⟩ := parse?_eq_some_iff.mp hr'
    obtain ⟨-, p', hp', -, rfl⟩ := (parse?_combined_iff htext (hclose hp)).mp hr
    obtain rfl : p = p' := Option.some.inj (hp.symm.trans hp')
    refine (isMatch_alt_iff _ _ _).trans (or_comm.trans (or_congr_right ?_))
    refine (isMatch_literalsRegexes_iff hclean selector).trans ?_
    simp only [mem_cleanTerms]
    constructor
    · rintro ⟨t, ⟨term, hterm, hne, rfl⟩, h⟩
      exact ⟨term, hterm, hne, h⟩
    · rintro ⟨term, hterm, hne, h⟩
      exact ⟨_, ⟨term, hterm, hne, rfl⟩, h⟩

/-- The blocks of a shop by a pattern, and its cart by a term. -/
def shopEntry (pattern : String) : Entry :=
  { Entry.pattern pattern with search := ["#cart"] }

theorem exists_mem_shopEntry (pattern : String) :
    ∃ term ∈ (shopEntry pattern).search, trim term.toList ≠ [] :=
  ⟨"#cart", List.mem_cons_self, by decide +kernel⟩

theorem isInForce_shopEntry (pattern : String) : (shopEntry pattern).IsInForce "" "" :=
  ⟨rfl, rfl⟩

/-- A verbose pattern whose comment ends with its line. -/
def closedComment : String :=
  "(?x)wc-  # shop blocks\n"

theorem compile_combined_closedComment :
    (shopEntry closedComment).IsInForce "" "" ∧
      (shopEntry closedComment).searchPattern = some closedComment ∧
      (∃ term ∈ (shopEntry closedComment).search, trim term.toList ≠ []) ∧
      ¬EndsInComment closedComment.toList ∧
      ∃ rule, compile .unlimited [shopEntry closedComment] "" "" = .ok [rule] ∧
        rule.isMatch ".wc-block" = true ∧ rule.isMatch "#cart:hover" = true := by
  have hforce := isInForce_shopEntry closedComment
  have hterm := exists_mem_shopEntry closedComment
  have hread : ((shopEntry closedComment).patternText?.bind parse?).isSome = true := by
    decide +kernel
  obtain ⟨r, hr⟩ := Option.isSome_iff_exists.mp hread
  obtain ⟨source, hsource, hr⟩ := Option.bind_eq_some_iff.mp hr
  have hrule := (Entry.compile_eq_ok_iff .unlimited hforce hsource _).mpr ⟨r, rfl, hr, rfl⟩
  have halone : (parse? closedComment).map (Regex.isMatch · ".wc-block") = some true := by
    decide +kernel
  obtain ⟨r', hr', hblock⟩ := Option.map_eq_some_iff.mp halone
  have hrule' :=
    (Entry.compile_withoutTerms_eq_ok_iff .unlimited hforce rfl _).mpr ⟨r', rfl, hr', rfl⟩
  obtain ⟨p, hp, -⟩ := parse?_eq_some_iff.mp hr'
  obtain ⟨hcompiled, hmatch⟩ := compile_combined .unlimited hforce rfl hterm
  have hmatch := hmatch _ _ hrule hrule'
  refine ⟨hforce, rfl, hterm, ?_, _, hrule, (hmatch _).mpr (.inl hblock),
    (hmatch _).mpr (.inr ?_)⟩
  · exact (hcompiled.mp ⟨⟨_, hrule⟩, not_closesTooMuch_of_read? hp, rfl⟩).2.1
  · have hcart : trim "#cart".toList = ['#', 'c', 'a', 'r', 't'] := by decide +kernel
    have hselector : "#cart:hover".toList =
        [] ++ (['#', 'c', 'a', 'r', 't'] ++ [':', 'h', 'o', 'v', 'e', 'r']) := by
      decide
    refine ⟨"#cart", List.mem_cons_self, ?_⟩
    rw [hcart]
    refine ⟨List.cons_ne_nil _ _, [], _, hselector, ?_⟩
    intro c hc
    obtain rfl : ':' = c := Option.some.inj hc
    exact .inr (.inr (.inl rfl))

/-- The same pattern without the end of the line. -/
def openComment : String :=
  "(?x)wc-  # shop blocks"

/-- The pattern is compiled alone, but not beside a term. -/
theorem compile_combined_openComment :
    (shopEntry openComment).IsInForce "" "" ∧
      (shopEntry openComment).searchPattern = some openComment ∧
      (∃ term ∈ (shopEntry openComment).search, trim term.toList ≠ []) ∧
      (∃ rule, compile .unlimited [(shopEntry openComment).withoutTerms] "" "" = .ok [rule] ∧
        rule.isMatch ".wc-block" = true) ∧
      ∃ err, compile .unlimited [shopEntry openComment] "" "" = .error err := by
  have hforce := isInForce_shopEntry openComment
  refine ⟨hforce, rfl, exists_mem_shopEntry openComment, ?_, ?_⟩
  · have hmatch : (parse? openComment).map (Regex.isMatch · ".wc-block") = some true := by
      decide +kernel
    obtain ⟨r, hr, hmatch⟩ := Option.map_eq_some_iff.mp hmatch
    have hrule :=
      (Entry.compile_withoutTerms_eq_ok_iff .unlimited hforce rfl _).mpr ⟨r, rfl, hr, rfl⟩
    exact ⟨_, hrule, hmatch⟩
  · refine compile_eq_error_iff.mpr ⟨_, List.mem_cons_self, hforce, ?_⟩
    have hnone : (shopEntry openComment).patternText?.bind parse? = none := by decide +kernel
    obtain ⟨text, -, hsource⟩ := Entry.patternText?_eq_of_terms (e := shopEntry openComment) rfl
      (cleanTerms_ne_nil_iff.mpr (exists_mem_shopEntry openComment))
    exact ⟨_, hsource, by rwa [hsource] at hnone⟩

end Allow

end StylePrune
