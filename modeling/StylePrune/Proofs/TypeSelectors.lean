import StylePrune.Proofs.Inclusion
import StylePrune.Proofs.Selector.RoundTrip

/-!
# Type selectors

A type selector can be written in many ways: with backslashes, in other letters, with a prefix
for a namespace.  The passes take the runs of name characters outside escapes for names of
types.  So a selector that is written in another way than the page records the type asks for
other names, and it is dropped where these are not used.
-/

namespace StylePrune

namespace Selector

open Text

structure TypeSelector where
  /-- The name of the type as pages record it. -/
  recorded : Label
  /-- The prefix for a namespace. -/
  space : Option Word
  /-- The name as the selector has it, before it is serialized. -/
  written : Label
  sameLetters : written.chars.map Char.toLower = recorded.chars.map Char.toLower := by decide

namespace TypeSelector

def spaceText (t : TypeSelector) : List Char :=
  (t.space.map fun w => w.chars ++ ['|']).getD []

def print (t : TypeSelector) : List Char :=
  t.spaceText ++ serializeName t.written.chars

/-- What the selector asks for: the runs of name characters outside escapes. -/
def runs (t : TypeSelector) : List (List Char) :=
  tagRuns [] t.print

end TypeSelector

/-- A selector with a type selector in one of its compounds. -/
structure Typed where
  /-- The compounds before, with the combinators behind them. -/
  front : List (Compound × Combinator)
  type : TypeSelector
  parts : List Part
  rest : List (Combinator × Compound)

namespace Typed

/-- The rest of the compound of the type selector, and what follows. -/
def tail (sel : Typed) : Canonical :=
  ⟨⟨.nothing, sel.parts⟩, sel.rest⟩

def print (sel : Typed) : List Char :=
  sel.front.flatMap (fun (c, k) => c.print ++ k.print) ++ (sel.type.print ++ sel.tail.print)

def text (sel : Typed) : String :=
  String.ofList sel.print

def otherNames (sel : Typed) : Names :=
  (Names.ofCompounds (sel.front.map Prod.fst)).append sel.tail.names

end Typed

/-! ## Runs -/

theorem tagRuns_blanks {b : List Char} (hb : ∀ c ∈ b, isBlank c = true ∧ isNameChar c = false) :
    tagRuns [] b = [] := by
  induction b with
  | nil => rfl
  | cons c rest ih =>
      obtain ⟨hblank, hname⟩ := hb c List.mem_cons_self
      have hslash : c ≠ '\\' := by
        rintro rfl
        exact absurd hblank (by decide)
      rw [tagRuns_cons hslash, hname]
      exact ih fun d hd => hb d (List.mem_cons_of_mem c hd)

theorem isApart_of_blanks {b : List Char} (hb : ∀ c ∈ b, isBlank c = true ∧ isNameChar c = false) :
    IsApart b := by
  cases b with
  | nil => trivial
  | cons c rest =>
      obtain ⟨hblank, hname⟩ := hb c List.mem_cons_self
      refine isApart_cons ⟨hname, ?_, ?_⟩ rest
      · rintro rfl
        exact absurd hblank (by decide)
      · rintro rfl
        exact absurd hblank (by decide)

theorem Spells.exists_eq_cons {s name : List Char} (h : Spells s name) (hne : name ≠ [])
    (hn : ∀ c ∈ name, isBlank c = false) : ∃ c rest, s = c :: rest ∧ isBlank c = false := by
  cases h with
  | nil => exact absurd rfl hne
  | plain => exact ⟨_, _, rfl, hn _ List.mem_cons_self⟩
  | escaped | coded => exact ⟨_, _, rfl, by decide⟩

/-- The space behind an escape by number is the only blank in a serialized name. -/
theorem eq_space_of_mem_hexEscape {c x : Char} (hc : c.toNat < 128) (hx : x ∈ hexEscape c)
    (hb : isBlank x = true) : x = ' ' := by
  obtain ⟨hcode, -⟩ := isCode_hexDigits hc
  simp only [hexEscape, List.cons_append, List.mem_cons, List.mem_append, List.not_mem_nil,
    or_false] at hx
  rcases hx with rfl | hx | rfl
  · exact absurd hb (by decide)
  · rw [hcode.isBlank hx] at hb
    cases hb
  · rfl

theorem eq_space_of_mem_serializeChars {name : List Char} (hn : ∀ c ∈ name, isBlank c = false)
    {x : Char} (hx : x ∈ serializeChars name) (hb : isBlank x = true) : x = ' ' := by
  obtain ⟨c, hc, hx⟩ := List.mem_flatMap.mp hx
  have hne : c ≠ x := by
    rintro rfl
    rw [hn c hc] at hb
    cases hb
  rw [serializeChar] at hx
  split at hx
  · exact absurd (List.mem_singleton.mp hx).symm hne
  · split at hx
    · obtain rfl := List.mem_singleton.mp hx
      exact absurd hb (by decide)
    · split at hx
      · exact eq_space_of_mem_hexEscape (by omega) hx hb
      · simp only [List.mem_cons, List.not_mem_nil, or_false] at hx
        rcases hx with rfl | rfl
        · exact absurd hb (by decide)
        · exact absurd rfl hne

theorem eq_space_of_mem_serializeLead {name : List Char} (hn : ∀ c ∈ name, isBlank c = false)
    {x : Char} (hx : x ∈ serializeLead name) (hb : isBlank x = true) : x = ' ' := by
  cases name with
  | nil => cases hx
  | cons c rest =>
      rw [serializeLead] at hx
      split at hx
      · rename_i hdigit
        have hlt : c.toNat < 128 := by
          simp only [Char.isDigit, Bool.and_eq_true, decide_eq_true_eq] at hdigit
          exact Nat.lt_of_le_of_lt (UInt32.le_iff_toNat_le.mp hdigit.2) (by decide)
        rcases List.mem_append.mp hx with hx | hx
        · exact eq_space_of_mem_hexEscape hlt hx hb
        · exact eq_space_of_mem_serializeChars (fun d hd => hn d (List.mem_cons_of_mem c hd)) hx hb
      · exact eq_space_of_mem_serializeChars hn hx hb

theorem eq_space_of_mem_serializeName {name : List Char} (hn : ∀ c ∈ name, isBlank c = false)
    {x : Char} (hx : x ∈ serializeName name) (hb : isBlank x = true) : x = ' ' := by
  have hdash : x ≠ '-' := by
    rintro rfl
    exact absurd hb (by decide)
  fun_cases serializeName name with
  | case1 rest =>
      rw [serializeName] at hx
      simp only [List.mem_cons, hdash, false_or] at hx
      exact eq_space_of_mem_serializeChars
        (fun d hd => hn d (List.mem_cons_of_mem _ (List.mem_cons_of_mem _ hd))) hx hb
  | case2 =>
      simp only [serializeName, List.mem_cons, List.not_mem_nil, or_false] at hx
      rcases hx with rfl | rfl
      · exact absurd hb (by decide)
      · exact absurd rfl hdash
  | case3 rest h1 h2 =>
      rw [serializeName.eq_3 rest h1 h2] at hx
      rcases List.mem_cons.mp hx with rfl | hx
      · exact absurd rfl hdash
      · exact eq_space_of_mem_serializeLead (fun d hd => hn d (List.mem_cons_of_mem _ hd)) hx hb
  | case4 _ h1 h2 h3 =>
      rw [serializeName.eq_4 _ h1 h2 h3] at hx
      exact eq_space_of_mem_serializeLead hn hx hb

/-! ## Reading -/

/-- A text without classes, ids, attributes and pseudo-classes in front of another one. -/
theorem ReadsApart.avoiding {u s : List Char} {names : Names}
    (hu : ∀ x ∈ [':', '[', '.', '#'], Avoids x u) (h : ReadsApart s names) :
    Reads (u ++ s) { names with tags := tagRuns [] u ++ names.tags } := by
  obtain ⟨t, rfl, hp, ha⟩ := h
  refine ⟨⟨u ++ t.source, u ++ t.plain, u ++ t.bare, u ++ t.unclassed, u ++ t.left⟩, rfl,
    ⟨?_, ?_, ?_, ?_, ?_⟩⟩
  · rw [withoutPseudo_append (hu ':' (by simp)), hp.plain]
    rfl
  · rw [takeAttributes_append (hu '[' (by simp)), hp.bare]
    rfl
  · rw [takePrefixed_append (hu '.' (by simp)), hp.unclassed]
  · rw [takePrefixed_append (hu '#' (by simp)), hp.left]
  · rw [tagRuns_append (hu '.' (by simp)) ha.left, hp.tags]

namespace TypeSelector

variable (t : TypeSelector)

theorem notBlank_spaceText : ∀ c ∈ t.spaceText, isBlank c = false := by
  intro c hc
  cases hs : t.space with
  | none => simp [spaceText, hs] at hc
  | some w =>
      simp only [spaceText, hs, Option.map_some, Option.getD_some, List.mem_append,
        List.mem_singleton] at hc
      rcases hc with hc | rfl
      · exact w.notBlank c hc
      · decide

theorem avoids_spaceText {x : Char} (hx : isNameChar x = false) (hbar : '|' ≠ x) :
    Avoids x t.spaceText := by
  cases hs : t.space with
  | none => simpa [spaceText, hs] using Avoids.nil
  | some w => simpa [spaceText, hs] using (w.avoids hx).append (.cons (by decide) hbar .nil)

theorem trimEnd_print :
    trimEnd t.print = t.spaceText ++ trimEnd (serializeName t.written.chars) :=
  trimEnd_append_of_not_isBlank t.notBlank_spaceText _

/-- No pass but the last looks inside a type selector. -/
theorem avoids_print :
    ∀ x ∈ [':', '[', '.', '#'], Avoids x t.print ∧ Avoids x (trimEnd t.print) := by
  intro x hx
  have hmark : isNameChar x = false ∧ isBlank x = false ∧ '|' ≠ x := by
    simp only [List.mem_cons, List.not_mem_nil, or_false] at hx
    rcases hx with rfl | rfl | rfl | rfl <;> decide
  obtain ⟨hname, hblank, hbar⟩ := hmark
  have hspace := t.avoids_spaceText hname hbar
  refine ⟨hspace.append (t.written.spells.avoids hname hblank), ?_⟩
  rw [trimEnd_print]
  exact hspace.append (t.written.avoids_trimEnd hname hblank)

theorem tagRuns_trimEnd_print : tagRuns [] (trimEnd t.print) = t.runs := by
  have hsplit : trimEnd t.print ++ (t.print.reverse.takeWhile isBlank).reverse = t.print := by
    rw [trimEnd, dropBlanks, ← List.reverse_append, List.takeWhile_append_dropWhile,
      List.reverse_reverse]
  -- What trimming takes can only be the space behind an escape by number.
  have hblanks : ∀ c ∈ (t.print.reverse.takeWhile isBlank).reverse,
      isBlank c = true ∧ isNameChar c = false := by
    intro c hc
    rw [List.mem_reverse] at hc
    have hb := List.all_eq_true.mp List.all_takeWhile c hc
    have hmem := List.mem_reverse.mp ((List.takeWhile_sublist _).mem hc)
    refine ⟨hb, ?_⟩
    rcases List.mem_append.mp hmem with hmem | hmem
    · rw [t.notBlank_spaceText c hmem] at hb
      cases hb
    · obtain rfl := eq_space_of_mem_serializeName t.written.notBlank hmem hb
      decide
  have hruns := tagRuns_append (t.avoids_print '.' (by simp)).2 (isApart_of_blanks hblanks) []
  rw [hsplit, tagRuns_blanks hblanks, List.append_nil] at hruns
  exact hruns.symm

/-- A name that is written as it is recorded is the only run. -/
theorem runs_of_print_eq (h : t.print = t.recorded.chars)
    (hn : ∀ c ∈ t.recorded.chars, isNameChar c = true) : t.runs = [t.recorded.chars] := by
  have hruns := tagRuns_word hn (s := []) trivial [] t.recorded.ne_nil
  rw [List.append_nil] at hruns
  rw [runs, h, hruns]
  rfl

theorem exists_print_eq_cons : ∃ c s, t.print = c :: s ∧ isBlank c = false := by
  cases hs : t.space with
  | none =>
      obtain ⟨c, s, hc, hb⟩ := t.written.spells.exists_eq_cons t.written.ne_nil t.written.notBlank
      exact ⟨c, s, by simp [print, spaceText, hs, hc], hb⟩
  | some w =>
      obtain ⟨c, s, hc⟩ := List.exists_cons_of_ne_nil w.ne_nil
      exact ⟨c, _, by simp [print, spaceText, hs, hc]; rfl, w.notBlank c (by simp [hc])⟩

theorem reads_trimEnd_append {s : List Char} {names : Names} (h : ReadsApart (trimEnd s) names) :
    Reads (trimEnd (t.print ++ s)) { names with tags := t.runs ++ names.tags } := by
  rw [trimEnd_append]
  split
  · rename_i hs
    rw [hs] at h
    rw [h.reads.eq_empty]
    have hreads := readsApart_nil.avoiding fun x hx => (t.avoids_print x hx).2
    rwa [List.append_nil, t.tagRuns_trimEnd_print] at hreads
  · exact h.avoiding fun x hx => (t.avoids_print x hx).1

end TypeSelector

namespace Typed

def names (sel : Typed) : Names :=
  (Names.ofCompounds (sel.front.map Prod.fst)).append
    { sel.tail.names with tags := sel.type.runs ++ sel.tail.names.tags }

theorem readsApart_trimEnd_tail (sel : Typed) :
    ReadsApart (trimEnd sel.tail.print) sel.tail.names := by
  obtain ⟨front, type, parts, rest⟩ := sel
  have hnames : Names.ofCompound ⟨.nothing, parts⟩ = Names.ofParts parts := rfl
  have hprint : Compound.print ⟨.nothing, parts⟩ = parts.flatMap Part.print := rfl
  cases rest with
  | nil =>
      have h := readsApart_nil.trimEnd_parts (s := []) parts
      rw [Names.append_empty, List.append_nil] at h
      simpa [tail, Canonical.print, Canonical.names, Canonical.compounds, hprint,
        Names.ofCompounds_cons, hnames] using h
  | cons kc rest =>
      obtain ⟨k, c⟩ := kc
      have h := ((Canonical.mk c rest).reads_trimEnd.trimEnd_combinator k).trimEnd_parts parts
      rw [tail, Canonical.print_cons, Canonical.names_cons, hnames, hprint]
      exact h

theorem print_cons (c : Compound) (k : Combinator) (front : List (Compound × Combinator))
    (type : TypeSelector) (parts : List Part) (rest : List (Combinator × Compound)) :
    (Typed.mk ((c, k) :: front) type parts rest).print =
      c.print ++ (k.print ++ (Typed.mk front type parts rest).print) := by
  simp [print, tail]

theorem names_cons (c : Compound) (k : Combinator) (front : List (Compound × Combinator))
    (type : TypeSelector) (parts : List Part) (rest : List (Combinator × Compound)) :
    (Typed.mk ((c, k) :: front) type parts rest).names =
      (Names.ofCompound c).append (Typed.mk front type parts rest).names := by
  simp [names, tail, Names.ofCompounds_cons, Names.append_assoc]

theorem reads_trimEnd (sel : Typed) : Reads (trimEnd sel.print) sel.names := by
  obtain ⟨front, type, parts, rest⟩ := sel
  induction front with
  | nil =>
      have h := type.reads_trimEnd_append (readsApart_trimEnd_tail ⟨[], type, parts, rest⟩)
      simpa [print, names] using h
  | cons ck front ih =>
      obtain ⟨c, k⟩ := ck
      rw [print_cons, names_cons]
      exact (ih.trimEnd_combinator k).trimEnd_compound c

theorem reads_trim_of_cons {sel : Typed} {d : Char} {s : List Char} (h : sel.print = d :: s)
    (hd : isBlank d = false) : Reads (trim sel.print) sel.names := by
  have hr := sel.reads_trimEnd
  rwa [trim_eq_trimEnd, h, dropBlanks_cons_of_not_isBlank hd, ← h]

theorem reads_trim (sel : Typed) : Reads (trim sel.print) sel.names := by
  obtain ⟨front, type, parts, rest⟩ := sel
  induction front with
  | nil =>
      obtain ⟨d, s, hd, hblank⟩ := type.exists_print_eq_cons
      exact reads_trim_of_cons (by simp [print, hd]; rfl) hblank
  | cons ck front ih =>
      obtain ⟨c, k⟩ := ck
      -- The text starts with a blank only if its first compound is nothing.
      rcases c.print_cases with hnil | ⟨d, s, hd, hblank⟩
      · rw [print_cons, names_cons, Names.ofCompound_of_print_eq_nil hnil, hnil,
          Names.empty_append]
        exact ih.trim_combinator k (Typed.mk front type parts rest).reads_trimEnd
      · exact reads_trim_of_cons (by rw [print_cons, hd]; rfl) hblank

end Typed

end Selector

namespace Inclusion

open Selector

/-- A selector is kept if it is exempt, admitted or asks only for names that are used. -/
theorem includes_eq_true_iff {m : Inclusion} {d : Descriptor}
    (hclasses : m.profile.hasAllClasses d.classes = true)
    (hids : m.profile.hasAllIds d.ids = true) :
    m.includes d = true ↔ isExempt m.catalog d = true ∨
      verdict m.profile m.allow d = .admitted ∨ m.profile.hasAllTags d.tags = true := by
  rw [includes, Bool.or_eq_true]
  refine or_congr_right ?_
  cases hv : verdict m.profile m.allow d with
  | admitted => simp
  | needs classes =>
      have hsub : m.profile.hasAllClasses classes = true :=
        NameSet.containsAll_iff.mpr fun x hx =>
          NameSet.containsAll_iff.mp hclasses x (subset_of_verdict hv hx)
      simp [hsub, hids]

structure UsesOthers (p : Profile) (sel : Typed) : Prop where
  classes : ∀ x ∈ sel.otherNames.classes, String.ofList x ∈ p.classes
  ids : ∀ x ∈ sel.otherNames.ids, String.ofList x ∈ p.ids
  tags : ∀ x ∈ sel.otherNames.tags, String.ofList x ∈ p.tags

theorem names_eq_otherNames (sel : Typed) :
    sel.names.classes = sel.otherNames.classes ∧ sel.names.ids = sel.otherNames.ids ∧
      ∀ x, x ∈ sel.names.tags ↔ x ∈ sel.otherNames.tags ∨ x ∈ sel.type.runs := by
  refine ⟨rfl, rfl, fun x => ?_⟩
  simp only [Typed.names, Typed.otherNames, Names.append, List.mem_append]
  grind

theorem containsAll_map_ofList_iff {names : NameSet} {xs : List (List Char)} :
    names.containsAll (xs.map String.ofList) = true ↔ ∀ x ∈ xs, String.ofList x ∈ names := by
  simp [NameSet.containsAll_iff]

/--
A selector whose other parts are used decomposes.  It is kept exactly if it is exempt, admitted
by the allow list, or every run of its type selector is a type that is used.  So it is kept if
the type is used and written as it is recorded.
-/
theorem includes_typed_iff (sel : Typed) (m : Inclusion) (h : UsesOthers m.profile sel) :
    ∃ d, decompose sel.text = .ok d ∧
      (m.includes d = true ↔ isExempt m.catalog d = true ∨
        verdict m.profile m.allow d = .admitted ∨
        ∀ run ∈ sel.type.runs, String.ofList run ∈ m.profile.tags) ∧
      (sel.type.print = sel.type.recorded.chars →
        (∀ c ∈ sel.type.recorded.chars, isNameChar c = true) →
        String.ofList sel.type.recorded.chars ∈ m.profile.tags → m.includes d = true) := by
  obtain ⟨hclasses, hids, htags⟩ := names_eq_otherNames sel
  -- The other parts are used, so only the runs are left to ask for.
  have hclassesUsed : m.profile.hasAllClasses (sel.names.classes.map String.ofList) = true := by
    rw [Profile.hasAllClasses, containsAll_map_ofList_iff, hclasses]
    exact h.classes
  have hidsUsed : m.profile.hasAllIds (sel.names.ids.map String.ofList) = true := by
    rw [Profile.hasAllIds, containsAll_map_ofList_iff, hids]
    exact h.ids
  have hruns : m.profile.hasAllTags (sel.names.tags.map String.ofList) = true ↔
      ∀ run ∈ sel.type.runs, String.ofList run ∈ m.profile.tags := by
    rw [Profile.hasAllTags, containsAll_map_ofList_iff]
    simp only [htags]
    constructor
    · intro hall run hrun
      exact hall run (.inr hrun)
    · intro hall x hx
      exact hx.elim (h.tags x) (hall x)
  have hiff : m.includes (.ofNames sel.text sel.names) = true ↔
      isExempt m.catalog (.ofNames sel.text sel.names) = true ∨
        verdict m.profile m.allow (.ofNames sel.text sel.names) = .admitted ∨
        ∀ run ∈ sel.type.runs, String.ofList run ∈ m.profile.tags :=
    (includes_eq_true_iff hclassesUsed hidsUsed).trans (or_congr_right (or_congr_right hruns))
  refine ⟨_, sel.reads_trim.decompose_eq, hiff, fun hprint hname hused => ?_⟩
  refine hiff.mpr (.inr (.inr ?_))
  rw [sel.type.runs_of_print_eq hprint hname]
  simpa using hused

/-- The name of an element that word processors write, with a backslash. -/
def officeType : TypeSelector where
  recorded := { chars := ['o', ':', 'p'] }
  space := none
  written := { chars := ['o', ':', 'p'] }

def officeSelector : Typed where
  front := [(⟨.tag { chars := ['p'] }, []⟩, .child)]
  type := officeType
  parts := [.cls { chars := ['n', 'o', 't', 'e'] }]
  rest := []

/-- The page has the element, but the selector asks for another type. -/
theorem includes_typed_iff_office :
    let m : Inclusion :=
      ⟨Profile.empty.withTags ["p", "o:p"] |>.withClasses ["note"], .minimal, []⟩
    officeSelector.text = "p > o\\:p.note" ∧ UsesOthers m.profile officeSelector ∧
      ∃ d, decompose officeSelector.text = .ok d ∧ m.includes d = false := by
  intro m
  have hothers : UsesOthers m.profile officeSelector := ⟨by decide, by decide, by decide⟩
  obtain ⟨d, hd, hiff, -⟩ := includes_typed_iff officeSelector m hothers
  have hdecompose : decompose officeSelector.text =
      .ok ⟨"p > o\\:p.note", ["note"], [], ["p", "op"], []⟩ := by
    with_unfolding_all rfl
  obtain rfl := Except.ok.inj (hd.symm.trans hdecompose)
  refine ⟨by decide +kernel, hothers, _, hd, Bool.eq_false_iff.mpr (mt hiff.mp ?_)⟩
  have hruns : officeType.runs = [['o', 'p']] := by decide
  rintro (hexempt | hadmitted | hused)
  · exact absurd hexempt (by decide +kernel)
  · cases hadmitted
  · exact absurd (hused ['o', 'p'] (by rw [officeSelector, hruns]; simp)) (by decide)

/-- Three type selectors for elements of a page that are dropped for it. -/
theorem not_includes_typeSelectors :
    let m : Inclusion := ⟨Profile.empty.withTags ["o:p", "div", "circle"], .minimal, []⟩
    ∀ text ∈ ["o\\:p", "DIV", "v|circle"],
      ∃ d, decompose text = .ok d ∧ m.includes d = false := by
  intro m text htext
  simp only [List.mem_cons, List.not_mem_nil, or_false] at htext
  rcases htext with rfl | rfl | rfl
  · exact ⟨⟨"o\\:p", [], [], ["op"], []⟩, by with_unfolding_all rfl, by decide +kernel⟩
  · exact ⟨⟨"DIV", [], [], ["DIV"], []⟩, by with_unfolding_all rfl, by decide +kernel⟩
  · exact ⟨⟨"v|circle", [], [], ["v", "circle"], []⟩, by with_unfolding_all rfl, by decide +kernel⟩

end Inclusion

end StylePrune
