import StylePrune.Proofs.Inclusion.Growth

/-!
# Reading of an inclusion

An allow list is left at the first rule for a leading class with which the selector starts but
does not end.  The rules before it can only admit, the rules after it count for nothing, and of
the rule itself only the class is spared.
-/

namespace StylePrune

open Selector (Descriptor)

namespace Text

/-- A text starts with another one and goes on after it. -/
theorem exists_append_iff {s t : String} :
    (∃ rest : String, rest ≠ "" ∧ t = s ++ rest) ↔ t ≠ s ∧ s.toList <+: t.toList := by
  constructor
  · rintro ⟨rest, hrest, rfl⟩
    exact ⟨by simpa using hrest, by simp⟩
  · rintro ⟨hne, rest, hrest⟩
    have ht : t = s ++ String.ofList rest := by
      rw [← String.toList_inj, ← hrest]
      simp
    refine ⟨String.ofList rest, ?_, ht⟩
    intro hempty
    rw [hempty, String.append_empty] at ht
    exact hne ht

end Text

namespace Allow.Rule

/-- The selector starts with the leading class of the rule and goes on after it. -/
def Stops (rule : Rule) (selector : String) : Prop :=
  rule.kind = .leading ∧ ∃ name rest : String,
    rule.className = some name ∧ rest ≠ "" ∧ selector = "." ++ name ++ rest

/-- The rule keeps the selector, whatever names it mentions. -/
def Admits (rule : Rule) (used : Profile) (selector : String) : Prop :=
  match rule.kind with
  | .any => rule.isMatch selector = true
  | .whileUsed =>
      (∃ name, rule.className = some name ∧ name ∈ used.classes) ∧ rule.isMatch selector = true
  | .leading => ∃ name, rule.className = some name ∧ selector = "." ++ name

end Allow.Rule

namespace Inclusion

section

variable {name selector : String} {rule : Allow.Rule} {used : Profile} {d : Descriptor}

/-! ## One rule -/

theorem leadingHit_dot (name rest : String) :
    leadingHit name ("." ++ rest) =
      if rest = name then .whole
      else if name.toList <+: rest.toList then .part
      else .miss := by
  simp [leadingHit, String.toList_inj]

theorem leadingHit_of_forall_ne (h : ∀ rest, selector ≠ "." ++ rest) :
    leadingHit name selector = .miss := by
  rw [leadingHit]
  split
  · rename_i rest hselector
    refine absurd ?_ (h (String.ofList rest))
    rw [← String.toList_inj, hselector]
    simp
  · rfl

theorem leadingHit_eq_whole_iff : leadingHit name selector = .whole ↔ selector = "." ++ name := by
  by_cases hdot : ∃ rest, selector = "." ++ rest
  · obtain ⟨rest, rfl⟩ := hdot
    rw [leadingHit_dot, String.append_right_inj]
    by_cases hwhole : rest = name
    · simp [hwhole]
    · by_cases hpart : name.toList <+: rest.toList <;> simp [hwhole, hpart]
  · rw [leadingHit_of_forall_ne (not_exists.mp hdot)]
    exact iff_of_false LeadingHit.noConfusion fun h => hdot ⟨name, h⟩

theorem leadingHit_eq_part_iff :
    leadingHit name selector = .part ↔
      ∃ rest : String, rest ≠ "" ∧ selector = "." ++ name ++ rest := by
  by_cases hdot : ∃ tail, selector = "." ++ tail
  · obtain ⟨tail, rfl⟩ := hdot
    simp only [String.append_assoc, String.append_right_inj, Text.exists_append_iff]
    rw [leadingHit_dot]
    by_cases hwhole : tail = name
    · simp [hwhole]
    · by_cases hpart : name.toList <+: tail.toList <;> simp [hwhole, hpart]
  · rw [leadingHit_of_forall_ne (not_exists.mp hdot)]
    refine iff_of_false LeadingHit.noConfusion ?_
    rintro ⟨rest, -, h⟩
    exact hdot ⟨name ++ rest, by rw [h, String.append_assoc]⟩

theorem verdict?_eq_admitted_iff :
    verdict? used rule d = some .admitted ↔ rule.Admits used d.selector := by
  cases hkind : rule.kind with
  | any => simp [verdict?, Allow.Rule.Admits, hkind]
  | whileUsed =>
      cases hname : rule.className with
      | none => simp [verdict?, Allow.Rule.Admits, hkind, hname]
      | some name => simp [verdict?, Allow.Rule.Admits, hkind, hname, Profile.hasClass]
  | leading =>
      cases hname : rule.className with
      | none => simp [verdict?, Allow.Rule.Admits, hkind, hname]
      | some name =>
          have hwhole := @leadingHit_eq_whole_iff name d.selector
          simp only [verdict?, Allow.Rule.Admits, hkind, hname, Option.some.injEq, exists_eq_left',
            ← hwhole]
          cases leadingHit name d.selector <;> simp

/-- A rule that stops asks for the classes of the selector but its own. -/
theorem verdict?_eq_needs_iff {classes : List String} :
    verdict? used rule d = some (.needs classes) ↔
      rule.Stops d.selector ∧ classes = d.classes.filter (rule.className != some ·) := by
  cases hkind : rule.kind with
  | any => simp [verdict?, Allow.Rule.Stops, hkind]
  | whileUsed => simp [verdict?, Allow.Rule.Stops, hkind]
  | leading =>
      cases hname : rule.className with
      | none => simp [verdict?, Allow.Rule.Stops, hkind, hname]
      | some name =>
          have hpart := @leadingHit_eq_part_iff name d.selector
          have hother : (fun c => some name != some c) = fun c => c != name := by
            funext c
            rw [Bool.eq_iff_iff, bne_iff_ne, bne_iff_ne, ne_eq, Option.some.injEq, eq_comm]
          simp only [verdict?, Allow.Rule.Stops, hkind, hname, Option.some.injEq, hother, true_and,
            exists_and_left, exists_eq_left', ← hpart]
          cases leadingHit name d.selector <;> simp [eq_comm]

theorem stops_iff : rule.Stops selector ↔
    rule.kind = .leading ∧ ∃ name ∈ rule.className, leadingHit name selector = .part := by
  simp only [Allow.Rule.Stops, leadingHit_eq_part_iff, Option.mem_def, exists_and_left]

instance (rule : Allow.Rule) (selector : String) : Decidable (rule.Stops selector) :=
  decidable_of_iff _ stops_iff.symm

theorem stops_iff_exists_needs (used : Profile) :
    rule.Stops d.selector ↔ ∃ classes, verdict? used rule d = some (.needs classes) := by
  simp only [verdict?_eq_needs_iff, exists_and_left, exists_eq, and_true]

/-- A rule that neither stops nor admits leaves the selector to the next one. -/
theorem verdict?_eq_none_iff :
    verdict? used rule d = none ↔ ¬ rule.Stops d.selector ∧ ¬ rule.Admits used d.selector := by
  rw [stops_iff_exists_needs used, ← verdict?_eq_admitted_iff]
  cases verdict? used rule d with
  | none => simp
  | some v => cases v <;> simp

/-! ## The whole list -/

/-- The place of the first rule that stops; the length of the list if none does. -/
def firstStop (allow : List Allow.Rule) (selector : String) : Nat :=
  allow.findIdx fun rule => decide (rule.Stops selector)

/-- A rule in front of the first one that stops admits the selector. -/
def AdmitsBeforeStop (used : Profile) (allow : List Allow.Rule) (selector : String) : Prop :=
  ∃ i rule, i < firstStop allow selector ∧ allow[i]? = some rule ∧ rule.Admits used selector

def sparedClass (allow : List Allow.Rule) (selector : String) : Option String :=
  allow[firstStop allow selector]?.bind Allow.Rule.className

variable {allow : List Allow.Rule}

theorem firstStop_cons_of_stops (h : rule.Stops selector) :
    firstStop (rule :: allow) selector = 0 := by
  simp [firstStop, List.findIdx_cons, h]

theorem firstStop_cons_of_not_stops (h : ¬ rule.Stops selector) :
    firstStop (rule :: allow) selector = firstStop allow selector + 1 := by
  simp [firstStop, List.findIdx_cons, h]

theorem admitsBeforeStop_cons_iff :
    AdmitsBeforeStop used (rule :: allow) selector ↔
      ¬ rule.Stops selector ∧
        (rule.Admits used selector ∨ AdmitsBeforeStop used allow selector) := by
  by_cases hstops : rule.Stops selector
  · simp [AdmitsBeforeStop, firstStop_cons_of_stops hstops, hstops]
  · simp only [AdmitsBeforeStop, firstStop_cons_of_not_stops hstops, hstops, not_false_eq_true,
      true_and]
    constructor
    · rintro ⟨i, r, hi, hr, hadmits⟩
      cases i with
      | zero =>
          obtain rfl : rule = r := by simpa using hr
          exact .inl hadmits
      | succ i => exact .inr ⟨i, r, by omega, by simpa using hr, hadmits⟩
    · rintro (hadmits | ⟨i, r, hi, hr, hadmits⟩)
      · exact ⟨0, rule, by omega, rfl, hadmits⟩
      · exact ⟨i + 1, r, by omega, by simpa using hr, hadmits⟩

/-- The list admits what a rule admits before the first stop. -/
theorem verdict_eq_admitted_iff :
    verdict used allow d = .admitted ↔ AdmitsBeforeStop used allow d.selector := by
  induction allow with
  | nil => simp [verdict, AdmitsBeforeStop, firstStop]
  | cons rule rest ih =>
      rw [verdict_cons, admitsBeforeStop_cons_iff, stops_iff_exists_needs used,
        ← verdict?_eq_admitted_iff, ← ih]
      cases verdict? used rule d with
      | none => simp
      | some v => cases v <;> simp

/-- A list that does not admit asks for all classes but the one that its first stop spares. -/
theorem verdict_of_not_admitsBeforeStop (h : ¬ AdmitsBeforeStop used allow d.selector) :
    verdict used allow d =
      .needs (d.classes.filter (sparedClass allow d.selector != some ·)) := by
  induction allow with
  | nil =>
      have hall : d.classes.filter (none != some ·) = d.classes :=
        List.filter_eq_self.mpr fun _ _ => rfl
      simp [verdict, sparedClass, hall]
  | cons rule rest ih =>
      rw [admitsBeforeStop_cons_iff, not_and, not_or] at h
      rw [verdict_cons]
      by_cases hstops : rule.Stops d.selector
      · obtain ⟨classes, hneeds⟩ := (stops_iff_exists_needs used).mp hstops
        rw [hneeds, (verdict?_eq_needs_iff.mp hneeds).2, sparedClass,
          firstStop_cons_of_stops hstops]
        rfl
      · obtain ⟨hadmits, hrest⟩ := h hstops
        have hnone := verdict?_eq_none_iff.mpr ⟨hstops, hadmits⟩
        rw [hnone, Option.getD_none, ih hrest, sparedClass, sparedClass,
          firstStop_cons_of_not_stops hstops, List.getElem?_cons_succ]

end

theorem isExempt_iff {catalog : Catalog} {d : Descriptor} :
    isExempt catalog d = true ↔
      ['@'] <+: d.selector.toList ∨ (∃ p ∈ catalog.pseudo, p.toList <:+: d.selector.toList) ∨
        d.selector ∈ catalog.critical ∨
        (d.attrs ≠ [] ∧ d.classes = [] ∧ d.ids = [] ∧ d.tags = []) := by
  simp [isExempt, Catalog.hasPreservedPseudo, Catalog.isCritical, Text.occursIn_iff,
    Descriptor.attributeOnly, Descriptor.hasMarkupRefs, or_assoc, and_assoc]

/-- The names of a selector are used, but for a class that is spared. -/
theorem uses_needed_iff {used : Profile} {d : Descriptor} {spared : Option String} :
    (used.hasAllClasses (d.classes.filter (spared != some ·)) && used.hasAllIds d.ids &&
        used.hasAllTags d.tags) = true ↔
      (∀ id ∈ d.ids, id ∈ used.ids) ∧ (∀ tag ∈ d.tags, tag ∈ used.tags) ∧
        ∀ c ∈ d.classes, c ∈ used.classes ∨ spared = some c := by
  simp only [Profile.hasAllClasses, Profile.hasAllIds, Profile.hasAllTags, Bool.and_eq_true,
    NameSet.containsAll_iff, List.mem_filter, bne_iff_ne, and_imp]
  constructor
  · rintro ⟨⟨hclasses, hids⟩, htags⟩
    refine ⟨hids, htags, fun c hc => ?_⟩
    by_cases hspared : spared = some c
    · exact .inr hspared
    · exact .inl (hclasses c hc hspared)
  · rintro ⟨hids, htags, hclasses⟩
    exact ⟨⟨fun c hc hspared => (hclasses c hc).resolve_right hspared, hids⟩, htags⟩

/--
A selector is kept exactly if it is exempt, or a rule in front of the first one that stops admits
it, or all of its ids, its tags and its classes are used, the class of that first rule aside.
-/
theorem includes_iff_reading (m : Inclusion) (d : Descriptor) :
    let k := firstStop m.allow d.selector
    m.includes d = true ↔
      (['@'] <+: d.selector.toList ∨
        (∃ p ∈ m.catalog.pseudo, p.toList <:+: d.selector.toList) ∨
        d.selector ∈ m.catalog.critical ∨
        (d.attrs ≠ [] ∧ d.classes = [] ∧ d.ids = [] ∧ d.tags = [])) ∨
      (∃ i rule, i < k ∧ m.allow[i]? = some rule ∧ rule.Admits m.profile d.selector) ∨
      ((∀ id ∈ d.ids, id ∈ m.profile.ids) ∧ (∀ tag ∈ d.tags, tag ∈ m.profile.tags) ∧
        ∀ c ∈ d.classes, c ∈ m.profile.classes ∨
          ∃ rule, m.allow[k]? = some rule ∧ rule.className = some c) := by
  intro k
  rw [includes, Bool.or_eq_true, isExempt_iff]
  refine or_congr_right ?_
  by_cases hadmits : AdmitsBeforeStop m.profile m.allow d.selector
  · rw [verdict_eq_admitted_iff.mpr hadmits]
    exact iff_of_true rfl (.inl hadmits)
  · have hspared : ∀ c, (∃ rule, m.allow[k]? = some rule ∧ rule.className = some c) ↔
        sparedClass m.allow d.selector = some c :=
      fun c => Option.bind_eq_some_iff.symm
    rw [verdict_of_not_admitsBeforeStop hadmits]
    simp only [hspared]
    exact uses_needed_iff.trans (or_iff_right hadmits).symm

/-- The rule for a leading class hides the rule after it, not the one in front of it. -/
example :
    let d : Descriptor := ⟨".wp-x .y", ["wp-x", "y"], [], [], []⟩
    let stop : Allow.Rule := ⟨.leading, some "wp", none⟩
    let keep : Allow.Rule := ⟨.any, none, (Pattern.parse? "y$").map fun regex => ⟨"y$", regex⟩⟩
    includes ⟨.empty, .minimal, [stop, keep]⟩ d = false ∧
      includes ⟨.empty, .minimal, [keep, stop]⟩ d = true := by
  decide +kernel

end Inclusion

end StylePrune
