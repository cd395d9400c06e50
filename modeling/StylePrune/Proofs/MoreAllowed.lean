import StylePrune.Proofs.Allow.TermReading
import StylePrune.Proofs.Inclusion.Growth
import StylePrune.Proofs.Pruning

/-!
# More allowed

Pruning keeps every leaf when its allow list grows by entries that only admit, at any place, or
by any entries at its end.  The critical entries are such entries, and no engine refuses them.
Only an entry for a leading class before the end of the list takes something away.
-/

namespace StylePrune

namespace Allow

namespace Entry

theorem kind_of_mem_criticalDefaults {e : Entry} (h : e ∈ criticalDefaults) : e.kind = .any := by
  obtain ⟨term, -, rfl⟩ := List.mem_map.mp h
  rfl

/-- The critical entries have terms only, and their patterns are small enough. -/
theorem not_isBroken_of_mem_criticalDefaults {engine : Engine} {e : Entry}
    (h : e ∈ criticalDefaults) : ¬e.IsBroken engine := by
  have hraw : e.searchPattern = none := by
    obtain ⟨term, -, rfl⟩ := List.mem_map.mp h
    rfl
  rw [isBroken_iff_isTooLarge hraw]
  rintro ⟨source, hsource, hlarge⟩
  rw [engine.fits_critical e h source hsource] at hlarge
  cases hlarge

end Entry

end Allow

namespace Settings

/-- The allow list that is in force grows with the one that is given. -/
theorem grows_entries (settings : Settings) {es fs : List Allow.Entry}
    (h : Allow.Grows Allow.Entry.kind es fs) :
    Allow.Grows Allow.Entry.kind (settings.entries es) (settings.entries fs) := by
  unfold entries
  split
  · exact h.append_left _
  · exact h

/-- The critical entries come in front, and they only admit. -/
theorem grows_entries_critical (catalog : Catalog) (es : List Allow.Entry) :
    Allow.Grows Allow.Entry.kind (entries ⟨catalog, false⟩ es) (entries ⟨catalog, true⟩ es) := by
  refine .append_of_forall (fun e he => ?_) es
  rw [Allow.Entry.kind_of_mem_criticalDefaults he]
  decide

end Settings

namespace Sheet

variable {engine : Allow.Engine} {s : Sheet} {settings settings' : Settings}
  {usage usage' : Usage}

/-- The critical entries break nothing. -/
theorem hasBrokenEntry_critical_iff (s : Sheet) (catalog : Catalog) (es : List Allow.Entry) :
    s.HasBrokenEntry engine (Settings.entries ⟨catalog, true⟩ es) ↔
      s.HasBrokenEntry engine (Settings.entries ⟨catalog, false⟩ es) := by
  constructor
  · rintro ⟨e, he, hforce, hbroken⟩
    rcases List.mem_append.mp he with he | he
    · exact absurd hbroken (Allow.Entry.not_isBroken_of_mem_criticalDefaults he)
    · exact ⟨e, he, hforce, hbroken⟩
  · rintro ⟨e, he, h⟩
    exact ⟨e, List.mem_append_right _ he, h⟩

theorem fellBack_prune_iff :
    (s.prune engine settings usage).1.report.fellBack = true ↔
      s.HasBrokenEntry engine (settings.entries usage.allow) ∨ s.IsUnreadable := by
  by_cases h : s.HasBrokenEntry engine (settings.entries usage.allow) ∨ s.IsUnreadable
  · rw [prune_of_fallback h]
    exact iff_of_true rfl h
  · obtain ⟨allow, rules, -, -, hprune⟩ := exists_prune_eq h
    rw [hprune]
    exact iff_of_false Bool.false_ne_true h

/--
Two prunings of the stylesheet render the same tree, and the second keeps every leaf that the
first keeps.
-/
def PrunesWithin (engine : Allow.Engine) (s : Sheet) (settings settings' : Settings)
    (usage usage' : Usage) : Prop :=
  ∃ allow allow' rules,
    s.allowRules engine (settings.entries usage.allow) = .ok allow ∧
    s.allowRules engine (settings'.entries usage'.allow) = .ok allow' ∧
    s.rules? = some rules ∧
    (s.prune engine settings usage).1 =
      .ofRendering s.content ((inclusion settings usage allow).render rules) ∧
    (s.prune engine settings' usage').1 =
      .ofRendering s.content ((inclusion settings' usage' allow').render rules) ∧
    (inclusion settings usage allow).RendersWithin (inclusion settings' usage' allow') rules

theorem prunesWithin_of_grows (hcatalog : settings.catalog = settings'.catalog)
    (hprofile : usage.profile = usage'.profile)
    (hgrows : Allow.Grows Allow.Entry.kind (settings.entries usage.allow)
      (settings'.entries usage'.allow))
    (h : (s.prune engine settings usage).1.report.fellBack = false)
    (h' : (s.prune engine settings' usage').1.report.fellBack = false) :
    s.PrunesWithin engine settings settings' usage usage' := by
  obtain ⟨allow, rules, hallow, hrules, hprune⟩ :=
    exists_prune_eq (fellBack_prune_iff.not.mp (Bool.eq_false_iff.mp h))
  obtain ⟨allow', rules', hallow', hrules', hprune'⟩ :=
    exists_prune_eq (fellBack_prune_iff.not.mp (Bool.eq_false_iff.mp h'))
  obtain rfl : rules = rules' := Option.some.inj (hrules.symm.trans hrules')
  have hwithin : (inclusion settings usage allow).Within (inclusion settings' usage' allow') := by
    refine ⟨?_, ?_, hgrows.compile hallow hallow'⟩
    · rw [inclusion, inclusion, hcatalog, hprofile]
      exact .refl _
    · rw [inclusion, inclusion, hcatalog]
      exact .refl _
  exact ⟨allow, allow', rules, hallow, hallow', hrules, by rw [hprune], by rw [hprune'],
    hwithin.rendersWithin rules⟩

/-- Entries without patterns do the same under every engine. -/
theorem prune_eq_of_patternText?_eq_none (engine' : Allow.Engine)
    (h : ∀ e ∈ settings.entries usage.allow, e.patternText? = none) :
    s.prune engine settings usage = s.prune engine' settings usage := by
  have hrules : s.allowRules engine (settings.entries usage.allow) =
      s.allowRules engine' (settings.entries usage.allow) := by
    refine Allow.compile_congr fun e he source hsource => ?_
    rw [h e he] at hsource
    cases hsource
  rw [prune, prune, hrules]

def widgetSheet : Sheet :=
  { new "theme" "" "" with
    tree := some [.leaf ".wp-x .y\x7b\x7d" (some [⟨".wp-x .y", ["wp-x", "y"], [], [], []⟩])] }

def blockSheet : Sheet :=
  { new "theme" "" "" with
    tree := some [.leaf ".wp-x\x7b\x7d" (some [⟨".wp-x", ["wp-x"], [], [], []⟩])] }

/-- An entry for a class comes too late behind one for a part of its name. -/
theorem kept_prune_blockSheet (engine : Allow.Engine) :
    (blockSheet.prune engine ⟨.minimal, false⟩ ⟨.empty, [.leading "wp-x"]⟩).1.report =
        ⟨0, 7, 1, 0, false⟩ ∧
      (blockSheet.prune engine ⟨.minimal, false⟩
          ⟨.empty, [.leading "wp", .leading "wp-x"]⟩).1.report =
        ⟨0, 0, 0, 1, false⟩ := by
  have hany (allow : List Allow.Entry) (h : ∀ e ∈ allow, e.patternText? = none) :
      blockSheet.prune engine ⟨.minimal, false⟩ ⟨.empty, allow⟩ =
        blockSheet.prune .unlimited ⟨.minimal, false⟩ ⟨.empty, allow⟩ :=
    prune_eq_of_patternText?_eq_none .unlimited h
  rw [hany _ (by decide +kernel), hany _ (by decide +kernel)]
  decide +kernel

/--
Where neither pruning falls back, the one with the longer allow list keeps every leaf that the
other keeps, if the list grew by entries that only admit and by entries at its end.  The
critical entries never make a pruning fall back and never take a leaf away.  An entry for a
leading class in front of another entry can take a leaf away.
-/
theorem prunesWithin_of_allowing (engine : Allow.Engine) (s : Sheet) (settings : Settings)
    (p : Profile) :
    (∀ es fs : List Allow.Entry, Allow.Grows Allow.Entry.kind es fs →
      (s.prune engine settings ⟨p, es⟩).1.report.fellBack = false →
      (s.prune engine settings ⟨p, fs⟩).1.report.fellBack = false →
      s.PrunesWithin engine settings settings ⟨p, es⟩ ⟨p, fs⟩) ∧
    (∀ es : List Allow.Entry,
      let without : Settings := { settings with preserveCritical := false }
      let critical : Settings := { settings with preserveCritical := true }
      ((s.prune engine critical ⟨p, es⟩).1.report.fellBack = true ↔
        (s.prune engine without ⟨p, es⟩).1.report.fellBack = true) ∧
      ((s.prune engine critical ⟨p, es⟩).1.report.fellBack = false →
        s.PrunesWithin engine without critical ⟨p, es⟩ ⟨p, es⟩)) ∧
    (∃ (s : Sheet) (settings : Settings) (p : Profile) (es fs : List Allow.Entry)
        (e : Allow.Entry), e.kind = .leading ∧
      (s.prune engine settings ⟨p, es ++ fs⟩).1.report.fellBack = false ∧
      (s.prune engine settings ⟨p, es ++ e :: fs⟩).1.report.fellBack = false ∧
      (s.prune engine settings ⟨p, es ++ e :: fs⟩).1.report.kept <
        (s.prune engine settings ⟨p, es ++ fs⟩).1.report.kept) := by
  refine ⟨?_, ?_, ?_⟩
  · intro es fs hgrows hes hfs
    exact prunesWithin_of_grows rfl rfl (settings.grows_entries hgrows) hes hfs
  · intro es
    have hiff : (s.prune engine ⟨settings.catalog, true⟩ ⟨p, es⟩).1.report.fellBack = true ↔
        (s.prune engine ⟨settings.catalog, false⟩ ⟨p, es⟩).1.report.fellBack = true := by
      rw [fellBack_prune_iff, fellBack_prune_iff, hasBrokenEntry_critical_iff]
    refine ⟨hiff, fun hcritical => ?_⟩
    have hwithout := Bool.eq_false_iff.mpr (mt hiff.mpr (Bool.eq_false_iff.mp hcritical))
    exact prunesWithin_of_grows rfl rfl (Settings.grows_entries_critical settings.catalog es)
      hwithout hcritical
  · obtain ⟨hwithout, hwith⟩ := kept_prune_blockSheet engine
    refine ⟨blockSheet, ⟨.minimal, false⟩, .empty, [], [.leading "wp-x"], .leading "wp", rfl, ?_⟩
    rw [List.nil_append, List.nil_append, hwithout, hwith]
    decide

/-- An entry for a class that is used comes in front, and a leading class at the end. -/
theorem prunesWithin_of_allowing_widget :
    let settings : Settings := ⟨.minimal, false⟩
    let p := Profile.empty.withClasses ["menu"]
    let es : List Allow.Entry := [.leading "wp-x"]
    let fs : List Allow.Entry :=
      [.whileUsed "menu" [".wp-x *"], .leading "wp-x", .leading "wp"]
    ((widgetSheet.prune .unlimited settings ⟨p, es⟩).1.report = ⟨0, 0, 0, 1, false⟩ ∧
      (widgetSheet.prune .unlimited settings ⟨p, fs⟩).1.report = ⟨0, 10, 1, 0, false⟩) ∧
      widgetSheet.PrunesWithin .unlimited settings settings ⟨p, es⟩ ⟨p, fs⟩ ∧
      widgetSheet.PrunesWithin .unlimited settings ⟨.minimal, true⟩ ⟨p, es⟩ ⟨p, es⟩ := by
  intro settings p es fs
  have hes : (widgetSheet.prune .unlimited settings ⟨p, es⟩).1.report = ⟨0, 0, 0, 1, false⟩ := by
    decide +kernel
  have hfs : (widgetSheet.prune .unlimited settings ⟨p, fs⟩).1.report = ⟨0, 10, 1, 0, false⟩ := by
    decide +kernel
  have hgrows : Allow.Grows Allow.Entry.kind es fs :=
    .insert (by decide) (.keep _ (.atEnd _))
  obtain ⟨hmore, hcritical, -⟩ := prunesWithin_of_allowing .unlimited widgetSheet settings p
  obtain ⟨hiff, hkeeps⟩ := hcritical es
  have hreads : (widgetSheet.prune .unlimited settings ⟨p, es⟩).1.report.fellBack ≠ true := by
    rw [hes]
    decide
  have hcriticalReads := Bool.eq_false_iff.mpr (mt hiff.mp hreads)
  exact ⟨⟨hes, hfs⟩, hmore es fs hgrows (by rw [hes]) (by rw [hfs]), hkeeps hcriticalReads⟩

end Sheet

end StylePrune
