import StylePrune.Proofs.Allow.Compile
import StylePrune.Proofs.Pattern.Reading

/-!
# Search terms as expressions

What the pattern for search terms is read as.  Every character of a term with a meaning in
patterns is escaped, and every part with alternatives stands in a group, so each part of a
term is read on its own.
-/

namespace StylePrune

namespace Allow

open Text Pattern

/-! ## Expressions -/

/-- The set that ends a name: blanks and four characters. -/
def nameEnds : CharSet :=
  [CharSet.property .blank, .single '.', .single ':', .single ',', .single '['].foldl
    .union .empty

/-- The set of the characters in front of a class or an id. -/
def sigils : CharSet :=
  [CharSet.single '.', .single '#'].foldl .union .empty

/-- Any number of characters but line ends. -/
def skipRegex : Regex :=
  .rep (.set (.compl (.single '\n'))) 0 none

/-- A character that ends a name, or the end of the text. -/
def boundaryRegex : Regex :=
  .altAll [.set nameEnds, .look .textEnd]

/-- A character that ends a compound, or the end of the text. -/
def compoundEndRegex : Regex :=
  .altAll [.set (.property .blank), .look .textEnd, .set (.single ','), .set (.single ':')]

def GlobToken.regexes : GlobToken → List Regex
  | literal c => [.set (.single c)]
  | anything => [skipRegex]
  | afterSpace => [compoundEndRegex, skipRegex]
  | restOfName => [.rep (.set (.compl nameEnds)) 0 none, boundaryRegex]

def tokenRegexes (glob : List Char) : List Regex :=
  (GlobToken.ofText glob).flatMap GlobToken.regexes

def globRegexes : List Char → List Regex
  | '*' :: c :: rest => tokenRegexes (c :: rest)
  | term => .look .textStart :: .rep (.set sigils) 0 (some 1) :: tokenRegexes term

def literalsRegexes (terms : List (List Char)) : List Regex :=
  [.altAll (terms.map Regex.literal), boundaryRegex]

def literalsAlternative (terms : List (List Char)) : List Regex :=
  if terms.isEmpty then [] else [.seqAll (literalsRegexes terms)]

def globsAlternative (terms : List (List Char)) : List Regex :=
  if terms.isEmpty then [] else [.altAll (terms.map fun glob => .seqAll (globRegexes glob))]

/-- The alternatives that some terms are: the literal ones, and the globs. -/
def termsAlternatives (terms : List (List Char)) : List Regex :=
  let (globs, literals) := terms.partition isGlob
  literalsAlternative literals ++ globsAlternative globs

def termsRegex (terms : List (List Char)) : Regex :=
  .altAll (termsAlternatives terms)

/-! ## Reading -/

theorem reads_textStart : Reads ['^'] [.look .textStart] 0 := by
  refine Reads.of_step (by decide) fun st rest hf _ => ?_
  simp [State.step?, State.startLook, hf, Flags.initial]

theorem reads_textEnd : Reads ['$'] [.look .textEnd] 0 := by
  refine Reads.of_step (by decide) fun st rest hf _ => ?_
  simp [State.step?, State.endLook, hf, Flags.initial]

theorem reads_blank : Reads ['\\', 's'] [.set (.property .blank)] 0 := by
  refine Reads.of_step (by decide) fun st rest hf _ => ?_
  rw [State.step?.eq_def]
  simp only [hf]
  rfl

theorem step?_brackets {w : List Char} {s : NestedSet}
    (h : ∀ rest, bracketSet? .initial (w ++ rest) = some (s, rest)) {st : State}
    (hf : st.flags = .initial) (rest : List Char) :
    st.step? ('[' :: w ++ rest) = some (st.add (.set s.set) s.depth, rest) := by
  rw [List.cons_append]
  simp [State.step?, hf, h]

theorem reads_nameEnds :
    Reads ['[', '\\', 's', '.', ':', ',', '\\', '[', ']'] [.set nameEnds] 2 :=
  Reads.of_step (by decide) fun _ rest hf _ =>
    step?_brackets (s := ⟨nameEnds, 2⟩) (fun _ => rfl) hf rest

theorem reads_restOfName :
    Reads ['[', '^', '\\', 's', '.', ':', ',', '\\', '[', ']', '*']
      [.rep (.set (.compl nameEnds)) 0 none] 3 :=
  Reads.of_step_repeated (w := ['^', '\\', 's', '.', ':', ',', '\\', '[', ']']) (v := [])
    (by decide)
    (fun _ rest hf => step?_brackets (s := ⟨.compl nameEnds, 2⟩) (fun _ => rfl) hf rest)
    (fun _ _ => rfl) fun _ hrest => hrest.dropLazy_eq

theorem reads_sigils : Reads ['[', '.', '#', ']', '?'] [.rep (.set sigils) 0 (some 1)] 3 :=
  Reads.of_step_repeated (w := ['.', '#', ']']) (v := []) (by decide)
    (fun _ rest hf => step?_brackets (s := ⟨sigils, 2⟩) (fun _ => rfl) hf rest)
    (fun _ _ => rfl) fun _ hrest => hrest.dropLazy_eq

theorem reads_skip : Reads ['.', '*', '?'] [skipRegex] 1 := by
  refine Reads.of_step_repeated (w := []) (v := ['?']) (by decide) (fun st rest hf => ?_)
    (fun _ _ => rfl) fun _ _ => rfl
  simp [State.step?, State.dot?, hf, Flags.initial]

theorem reads_boundary : Reads boundary [boundaryRegex] 5 := by
  have hends := (ReadsAlternatives.single (reads_textEnd.mono (Nat.zero_le 2)))
  exact (ReadsAlternatives.cons reads_nameEnds hends).group

theorem reads_compoundEnd : Reads "(?:\\s|$|,|:)".toList [compoundEndRegex] 3 := by
  have hcolon := ReadsAlternatives.single (reads_escapeText [':'])
  have hcomma := ReadsAlternatives.cons (reads_escapeText [',']) hcolon
  have hend := ReadsAlternatives.cons reads_textEnd hcomma
  exact (ReadsAlternatives.cons reads_blank hend).group

theorem reads_token (t : GlobToken) : Reads t.pattern t.regexes 5 := by
  cases t with
  | literal c => exact (reads_escapeText [c]).mono (by decide)
  | anything => exact reads_skip.mono (by decide)
  | afterSpace =>
      exact (reads_compoundEnd.mono (by decide)).append (reads_skip.mono (by decide))
  | restOfName => exact (reads_restOfName.mono (by decide)).append reads_boundary

theorem reads_tokens (glob : List Char) :
    Reads ((GlobToken.ofText glob).flatMap GlobToken.pattern) (tokenRegexes glob) 5 :=
  Reads.flatMap fun t _ => reads_token t

theorem reads_globPattern (glob : List Char) : Reads (globPattern glob) (globRegexes glob) 5 := by
  fun_cases globPattern glob with
  | case1 c rest => exact reads_tokens (c :: rest)
  | case2 _ hne =>
      have hstart := (reads_textStart.mono (Nat.zero_le 3)).append reads_sigils
      rw [globRegexes.eq_2 glob hne]
      exact (hstart.mono (by decide)).append (reads_tokens glob)

/-! ## Whole patterns -/

/-- An optional pattern is read as one alternative, or it is missing. -/
def ReadsOption (p : Option (List Char)) (rs : List Regex) (depth : Nat) : Prop :=
  match p with
  | none => rs = []
  | some text => ∃ r, rs = [r] ∧ ReadsAlternatives text [r] depth

theorem readsOption_literalPattern? (terms : List (List Char)) :
    ReadsOption (literalPattern? terms) (literalsAlternative terms) 9 := by
  cases terms with
  | nil => rfl
  | cons t rest =>
      have hterms := ReadsAlternatives.intercalate (List.cons_ne_nil t rest) fun t _ =>
        reads_escapeText t
      have hreads := (hterms.group.mono (show 3 ≤ 8 by decide)).append
        (reads_boundary.mono (by decide))
      exact ⟨_, rfl, ReadsAlternatives.single hreads⟩

theorem readsOption_globsPattern? (terms : List (List Char)) :
    ReadsOption (globsPattern? terms) (globsAlternative terms) 9 := by
  cases terms with
  | nil => rfl
  | cons t rest =>
      have hterms := ReadsAlternatives.intercalate (List.cons_ne_nil t rest) fun t _ =>
        reads_globPattern t
      exact ⟨_, rfl, ReadsAlternatives.single hterms.group⟩

theorem eitherPattern?_eq_none_iff {p q : Option (List Char)} {rs ss : List Regex} {depth : Nat}
    (hp : ReadsOption p rs depth) (hq : ReadsOption q ss depth) :
    eitherPattern? p q = none ↔ rs ++ ss = [] := by
  cases p with
  | none =>
      obtain rfl : rs = [] := hp
      cases q with
      | none => simp [eitherPattern?, show ss = [] from hq]
      | some w =>
          obtain ⟨s, rfl, -⟩ := hq
          simp [eitherPattern?]
  | some v =>
      obtain ⟨r, rfl, -⟩ := hp
      cases q <;> simp [eitherPattern?]

theorem readsAlternatives_eitherPattern? {p q : Option (List Char)} {rs ss : List Regex}
    {depth : Nat} (hp : ReadsOption p rs depth) (hq : ReadsOption q ss depth)
    {text : List Char} (h : eitherPattern? p q = some text) :
    ReadsAlternatives text (rs ++ ss) (depth + 3) := by
  cases p with
  | none =>
      obtain rfl : rs = [] := hp
      obtain rfl : q = some text := h
      obtain ⟨s, rfl, hs⟩ := hq
      exact hs.mono (by omega)
  | some v =>
      obtain ⟨r, rfl, hr⟩ := hp
      cases q with
      | none =>
          obtain rfl : ss = [] := hq
          obtain rfl : v = text := Option.some.inj h
          exact hr.mono (by omega)
      | some w =>
          obtain ⟨s, rfl, hs⟩ := hq
          -- Each of the two stands in a group of its own, so the bar is between groups.
          obtain rfl : alternatives [v] ++ ['|'] ++ alternatives [w] = text := Option.some.inj h
          have hfirst : Reads (alternatives [v]) [r] (depth + 2) := by
            simpa [alternatives, List.intercalate, Regex.altAll] using hr.group
          have hsecond : Reads (alternatives [w]) [s] (depth + 2) := by
            simpa [alternatives, List.intercalate, Regex.altAll] using hs.group
          simpa [Regex.seqAll] using ReadsAlternatives.cons hfirst (.single hsecond)

theorem termsAlternatives_eq (terms : List (List Char)) :
    termsAlternatives terms = literalsAlternative (terms.filter fun t => !isGlob t) ++
      globsAlternative (terms.filter isGlob) := by
  simp only [termsAlternatives, List.partition_eq_filter_filter]
  rfl

@[simp] theorem literalsAlternative_eq_nil_iff {terms : List (List Char)} :
    literalsAlternative terms = [] ↔ terms = [] := by
  cases terms <;> simp [literalsAlternative]

@[simp] theorem globsAlternative_eq_nil_iff {terms : List (List Char)} :
    globsAlternative terms = [] ↔ terms = [] := by
  cases terms <;> simp [globsAlternative]

@[simp] theorem termsAlternatives_eq_nil_iff {terms : List (List Char)} :
    termsAlternatives terms = [] ↔ terms = [] := by
  rw [termsAlternatives_eq, List.append_eq_nil_iff, literalsAlternative_eq_nil_iff,
    globsAlternative_eq_nil_iff, List.filter_eq_nil_iff, List.filter_eq_nil_iff]
  constructor
  · rintro ⟨hliterals, hglobs⟩
    refine List.eq_nil_iff_forall_not_mem.mpr fun t ht => hglobs t ht ?_
    simpa using hliterals t ht
  · rintro rfl
    simp

/-- There is no pattern exactly if every term is blank. -/
theorem patternText?_eq_none_iff {search : List String} :
    patternText? search none = none ↔ cleanTerms search = [] := by
  rw [← termsAlternatives_eq_nil_iff]
  exact eitherPattern?_eq_none_iff (readsOption_literalPattern? _) (readsOption_globsPattern? _)

/-- The pattern for some terms is read as the alternatives that the terms are. -/
theorem readsAlternatives_patternText? {search : List String} {text : List Char}
    (h : patternText? search none = some text) :
    ReadsAlternatives text (termsAlternatives (cleanTerms search)) 12 :=
  readsAlternatives_eitherPattern? (readsOption_literalPattern? _) (readsOption_globsPattern? _) h

/-- The pattern for some terms is read as the expression that they are. -/
theorem parse?_patternText? {search : List String} {text : List Char}
    (h : patternText? search none = some text) :
    Pattern.parse? (String.ofList text) = some (termsRegex (cleanTerms search)) :=
  (readsAlternatives_patternText? h).parse?_eq (by decide)

namespace Entry

variable {e : Entry}

theorem patternText?_of_blank (hraw : e.searchPattern = none) (h : cleanTerms e.search = []) :
    e.patternText? = none := by
  rw [patternText?, hraw, patternText?_eq_none_iff.mpr h]
  rfl

theorem compile_eq_of_blank (engine : Engine) (hraw : e.searchPattern = none)
    (h : cleanTerms e.search = []) :
    e.compile engine = .ok ⟨e.kind, e.className, none⟩ := by
  rw [compile, matcher, patternText?_of_blank hraw h]
  rfl

/-- An entry with terms is compiled to the expression that they are, if its pattern fits. -/
theorem compile_eq_of_terms (engine : Engine) (hraw : e.searchPattern = none)
    (h : cleanTerms e.search ≠ []) :
    ∃ source, e.patternText? = some source ∧
      e.compile engine =
        if engine.fits source then
          .ok ⟨e.kind, e.className, some ⟨source, termsRegex (cleanTerms e.search)⟩⟩
        else .error ⟨source⟩ := by
  obtain ⟨text, htext⟩ := Option.ne_none_iff_exists'.mp (mt patternText?_eq_none_iff.mp h)
  have hsource : e.patternText? = some (String.ofList text) := by
    rw [patternText?, hraw, htext]
    rfl
  refine ⟨String.ofList text, hsource, ?_⟩
  rw [compile, matcher, hsource]
  by_cases hfits : engine.fits (String.ofList text) = true
  · simp [Engine.regex?, parse?_patternText? htext, hfits, Except.map]
  · simp [Engine.regex?, hfits, Except.map]

/-- The machine for the pattern of the entry is larger than the engine allows. -/
def IsTooLarge (engine : Engine) (e : Entry) : Prop :=
  ∃ source, e.patternText? = some source ∧ engine.fits source = false

/-- Terms alone make a pattern that is refused only for its size. -/
theorem isBroken_iff_isTooLarge {engine : Engine} (hraw : e.searchPattern = none) :
    e.IsBroken engine ↔ e.IsTooLarge engine := by
  rw [← compile_eq_error_iff]
  by_cases hclean : cleanTerms e.search = []
  · rw [compile_eq_of_blank engine hraw hclean, IsTooLarge, patternText?_of_blank hraw hclean]
    simp
  · obtain ⟨source, hsource, hcompile⟩ := compile_eq_of_terms engine hraw hclean
    rw [hcompile, IsTooLarge, hsource]
    by_cases hfits : engine.fits source = true <;> simp [hfits]

end Entry

end Allow

end StylePrune
