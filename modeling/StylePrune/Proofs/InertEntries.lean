import StylePrune.Proofs.MoreAllowed

/-!
# Inert entries

An entry that is for another stylesheet, or tied to a class that it does not name, has no part
in a pruning, whatever its terms and its pattern are: it is left out before a pattern is read.
-/

namespace StylePrune

namespace Allow

namespace Entry

/--
The entry is for a value that is neither the id nor a part of the URL, or it is tied to a class
and names none.
-/
def IsInert (e : Entry) (id url : String) : Prop :=
  (∃ scope, e.sheet = some scope ∧ scope ≠ id ∧
    (scope = "" ∨ ¬scope.toList <:+: url.toList)) ∨
  (e.kind ≠ .any ∧ (e.className = none ∨ e.className = some ""))

variable {e : Entry} {id url : String}

theorem appliesTo_eq_false_iff :
    e.appliesTo id url = false ↔
      ∃ scope, e.sheet = some scope ∧ scope ≠ id ∧
        (scope = "" ∨ ¬scope.toList <:+: url.toList) := by
  unfold appliesTo
  cases e.sheet with
  | none => simp
  | some scope =>
      simp only [Option.some.injEq, exists_eq_left', ← Text.occursIn_iff, Bool.or_eq_false_iff,
        Bool.and_eq_false_iff, beq_eq_false_iff_ne, bne_eq_false_iff_eq, Bool.not_eq_true, ne_eq]

theorem hasItsClass_eq_false_iff :
    e.hasItsClass = false ↔
      e.kind ≠ .any ∧ (e.className = none ∨ e.className = some "") := by
  unfold hasItsClass
  rw [Bool.or_eq_false_iff]
  apply and_congr
  · cases e.kind <;> decide
  · cases e.className with
    | none => simp
    | some name => simp

theorem isInert_iff : e.IsInert id url ↔ ¬e.IsInForce id url := by
  rw [IsInert, ← appliesTo_eq_false_iff, ← hasItsClass_eq_false_iff, IsInForce,
    Decidable.not_and_iff_not_or_not, Bool.not_eq_true, Bool.not_eq_true]

instance (engine : Engine) : DecidablePred (IsBroken engine) := fun e =>
  decidable_of_iff (e.patternText?.any fun source => (engine.regex? source).isNone)
    (by simp [IsBroken, Option.any_eq_true])

end Entry

/-- The entries without a pattern that the engine refuses. -/
def readable (engine : Engine) (entries : List Entry) : List Entry :=
  entries.filter fun e => ¬e.IsBroken engine

section

variable {engine : Engine} {id url : String}

/-- The filter for entries in force drops an inert entry at any place. -/
theorem compile_append_cons_of_isInert {e : Entry} (h : e.IsInert id url) (es fs : List Entry) :
    compile engine (es ++ e :: fs) id url = compile engine (es ++ fs) id url := by
  have hno : ¬(e.appliesTo id url && e.hasItsClass) = true := by
    rw [Bool.and_eq_true]
    exact Entry.isInert_iff.mp h
  have hskip : (e :: fs).filter (fun e => e.appliesTo id url && e.hasItsClass) =
      fs.filter fun e => e.appliesTo id url && e.hasItsClass :=
    List.filter_cons_of_neg hno
  unfold compile
  rw [List.filter_append, hskip, ← List.filter_append]

/-- Broken entries that are inert are dropped twice. -/
theorem compile_readable {entries : List Entry}
    (h : ∀ e ∈ entries, e.IsBroken engine → e.IsInert id url) :
    compile engine (readable engine entries) id url = compile engine entries id url := by
  unfold compile readable
  rw [List.filter_filter]
  congr 1
  apply List.filter_congr
  intro e he
  by_cases hbroken : e.IsBroken engine
  · have hno : (e.appliesTo id url && e.hasItsClass) = false := by
      rw [← Bool.not_eq_true, Bool.and_eq_true]
      exact Entry.isInert_iff.mp (h e he hbroken)
    rw [hno, Bool.false_and]
  · rw [decide_eq_true hbroken, Bool.and_true]

end

end Allow

namespace Settings

theorem entries_append (settings : Settings) (es fs : List Allow.Entry) :
    settings.entries (es ++ fs) = settings.entries es ++ fs := by
  unfold entries
  split
  · rw [List.append_assoc]
  · rfl

/-- The critical entries are all readable. -/
theorem entries_readable (engine : Allow.Engine) (settings : Settings) (es : List Allow.Entry) :
    settings.entries (Allow.readable engine es) = Allow.readable engine (settings.entries es) := by
  unfold entries
  split
  · have hcritical : Allow.readable engine Allow.Entry.criticalDefaults =
        Allow.Entry.criticalDefaults := by
      apply List.filter_eq_self.mpr
      intro e he
      exact decide_eq_true (Allow.Entry.not_isBroken_of_mem_criticalDefaults he)
    conv_lhs => rw [← hcritical]
    exact (List.filter_append _ _).symm
  · rfl

/-- An entry that is in force and broken is one of those that were given. -/
theorem isInert_of_mem_entries {engine : Allow.Engine} {settings : Settings}
    {es : List Allow.Entry} {id url : String}
    (h : ∀ e ∈ es, e.IsBroken engine → e.IsInert id url) :
    ∀ e ∈ settings.entries es, e.IsBroken engine → e.IsInert id url := by
  intro e he hbroken
  unfold entries at he
  split at he
  · rcases List.mem_append.mp he with hcritical | hgiven
    · exact absurd hbroken (Allow.Entry.not_isBroken_of_mem_criticalDefaults hcritical)
    · exact h e hgiven hbroken
  · exact h e he hbroken

end Settings

namespace Sheet

variable {engine : Allow.Engine} {s : Sheet} {settings : Settings} {p : Profile}

/-- A pruning reads its allow list only through the rules that are compiled from it. -/
theorem prune_eq_of_allowRules_eq {es fs : List Allow.Entry}
    (h : s.allowRules engine (settings.entries es) = s.allowRules engine (settings.entries fs)) :
    s.prune engine settings ⟨p, es⟩ = s.prune engine settings ⟨p, fs⟩ := by
  rw [prune, prune, h]
  rfl

theorem prune_append_cons_of_isInert {e : Allow.Entry} (h : e.IsInert s.id s.url)
    (es fs : List Allow.Entry) :
    s.prune engine settings ⟨p, es ++ e :: fs⟩ = s.prune engine settings ⟨p, es ++ fs⟩ := by
  apply prune_eq_of_allowRules_eq
  rw [allowRules, allowRules, Settings.entries_append, Settings.entries_append]
  exact Allow.compile_append_cons_of_isInert h _ _

theorem prune_readable {es : List Allow.Entry}
    (h : ∀ e ∈ es, e.IsBroken engine → e.IsInert s.id s.url) :
    s.prune engine settings ⟨p, es⟩ = s.prune engine settings ⟨p, Allow.readable engine es⟩ := by
  apply prune_eq_of_allowRules_eq
  rw [allowRules, allowRules, Settings.entries_readable]
  exact (Allow.compile_readable (Settings.isInert_of_mem_entries h)).symm

/--
An inert entry at any place of an allow list changes neither the text nor the report nor what is
left of the stylesheet.  Where several stylesheets are pruned with one list, a broken entry makes
a difference only for those where it is not inert: every other one is pruned as if all broken
entries were removed.
-/
theorem prune_of_isInert (engine : Allow.Engine) (settings : Settings) (p : Profile) :
    (∀ (s : Sheet) (es fs : List Allow.Entry) (e : Allow.Entry), e.IsInert s.id s.url →
      s.prune engine settings ⟨p, es ++ [e] ++ fs⟩ = s.prune engine settings ⟨p, es ++ fs⟩) ∧
    (∀ (es : List Allow.Entry) (sheets : List Sheet) (i : Nat) (s : Sheet),
      sheets[i]? = some s → (∀ e ∈ es, e.IsBroken engine → e.IsInert s.id s.url) →
      (pruneAll engine settings ⟨p, es⟩ sheets)[i]? =
          some (s.prune engine settings ⟨p, Allow.readable engine es⟩) ∧
        (pruneAll engine settings ⟨p, es⟩ sheets)[i]? =
          (pruneAll engine settings ⟨p, Allow.readable engine es⟩ sheets)[i]?) := by
  refine ⟨?_, ?_⟩
  · intro s es fs e h
    rw [List.append_assoc, List.singleton_append]
    exact prune_append_cons_of_isInert h es fs
  · intro es sheets i s hs h
    have hprune : s.prune engine settings ⟨p, es⟩ =
        s.prune engine settings ⟨p, Allow.readable engine es⟩ :=
      prune_readable h
    simp only [pruneAll, List.getElem?_map, hs, Option.map_some, hprune, and_self]

/-- A stylesheet of a theme that has been read, and a blog's that has not. -/
def themeAndBlog : List Sheet :=
  [{ widgetSheet with url := "https://example.com/theme.css" },
    new "blog" "https://example.com/blog.css" ".x\x7bcolor:red\x7d"]

/-- An entry for the blog with a broken pattern, and a broken one that names no class. -/
def brokenEntries : List Allow.Entry :=
  [(Allow.Entry.pattern "([").forSheet "blog",
    { Allow.Entry.pattern "(" with kind := .whileUsed, className := some "" }]

/-- The theme is pruned as if the broken entries were not there; the blog stays as it was. -/
theorem prune_of_isInert_theme :
    let settings : Settings := ⟨.minimal, false⟩
    let es := Allow.Entry.any [".wp-x *"] :: brokenEntries
    (∀ e ∈ brokenEntries,
      e.IsBroken .unlimited ∧ e.IsInert "theme" "https://example.com/theme.css") ∧
    (∀ s, themeAndBlog[0]? = some s →
      s.prune .unlimited settings
          ⟨.empty, [.any [".wp-x *"]] ++ [brokenEntries[0]] ++ brokenEntries.tail⟩ =
        s.prune .unlimited settings ⟨.empty, [.any [".wp-x *"]] ++ brokenEntries.tail⟩ ∧
      (pruneAll .unlimited settings ⟨.empty, es⟩ themeAndBlog)[0]? =
        some (s.prune .unlimited settings ⟨.empty, [.any [".wp-x *"]]⟩)) ∧
    ((pruneAll .unlimited settings ⟨.empty, es⟩ themeAndBlog).map fun r => r.1.report) =
      [⟨0, 10, 1, 0, false⟩, ⟨13, 13, 0, 0, true⟩] := by
  intro settings es
  have hinert : ∀ e ∈ brokenEntries,
      e.IsBroken .unlimited ∧ e.IsInert "theme" "https://example.com/theme.css" := by
    intro e he
    rw [Allow.Entry.isInert_iff, Allow.Entry.IsInForce]
    revert e
    decide +kernel
  have hreadable : Allow.readable .unlimited es = [.any [".wp-x *"]] := by decide +kernel
  have hgood : ¬(Allow.Entry.any [".wp-x *"]).IsBroken .unlimited := by decide +kernel
  refine ⟨hinert, ?_, by decide +kernel⟩
  intro s hs
  obtain rfl : { widgetSheet with url := "https://example.com/theme.css" } = s :=
    Option.some.inj hs
  have hes : ∀ e ∈ es,
      e.IsBroken .unlimited → e.IsInert "theme" "https://example.com/theme.css" := by
    intro e he hbroken
    rcases List.mem_cons.mp he with rfl | he
    · exact absurd hbroken hgood
    · exact (hinert e he).2
  obtain ⟨hone, hall⟩ := prune_of_isInert .unlimited settings .empty
  refine ⟨?_, ?_⟩
  · exact hone _ [.any [".wp-x *"]] brokenEntries.tail brokenEntries[0]
      (hinert _ List.mem_cons_self).2
  · have hprune := (hall es themeAndBlog 0 _ hs hes).1
    rw [hreadable] at hprune
    exact hprune

end Sheet

end StylePrune
