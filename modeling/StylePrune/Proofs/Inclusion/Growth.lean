import StylePrune.Proofs.Allow.Growth
import StylePrune.Proofs.Inclusion
import StylePrune.Proofs.Markup.Growth
import StylePrune.Proofs.Tree.Leaves

/-!
# Growing inclusions

What decides about selectors can know more names, preserve more and allow more.  A selector
that is kept is kept after such a growth, also where the allow list is left at another rule;
so a rendering keeps every leaf that it kept before.
-/

namespace StylePrune

open Selector (Descriptor)

namespace Inclusion

/-- The second verdict keeps every selector that the first one keeps. -/
inductive Verdict.Within : Verdict → Verdict → Prop
  | admitted (v : Verdict) : v.Within .admitted
  | needs {cs cs' : List String} : cs' ⊆ cs → (needs cs).Within (.needs cs')

theorem Verdict.Within.refl (v : Verdict) : v.Within v := by
  cases v with
  | admitted => exact .admitted _
  | needs cs => exact .needs (List.Subset.refl cs)

section

variable {p q : Profile} {rule : Allow.Rule} {d : Descriptor}

/-- A rule for no leading class can only admit. -/
theorem verdict?_cases_of_kind_ne (h : rule.kind ≠ .leading) :
    verdict? p rule d = none ∨ verdict? p rule d = some .admitted := by
  unfold verdict?
  cases hk : rule.kind with
  | leading => exact absurd hk h
  | whileUsed =>
      dsimp only
      split
      · exact .inr rfl
      · exact .inl rfl
  | any =>
      dsimp only
      split
      · exact .inr rfl
      · exact .inl rfl

/-- More used names change the verdict of a rule only to admission. -/
theorem verdict?_cases_of_within (h : p.Within q) (rule : Allow.Rule) (d : Descriptor) :
    verdict? q rule d = verdict? p rule d ∨ verdict? q rule d = some .admitted := by
  cases hk : rule.kind with
  | leading =>
      left
      simp only [verdict?, hk]
  | any =>
      left
      simp only [verdict?, hk]
  | whileUsed =>
      -- Only here the profile is asked.
      have hne : rule.kind ≠ .leading := by simp [hk]
      rcases verdict?_cases_of_kind_ne (p := q) (d := d) hne with hq | hq
      · left
        rw [hq, eq_comm]
        simp only [verdict?, hk, ite_eq_right_iff, reduceCtorEq, imp_false, Bool.and_eq_true,
          not_and] at hq ⊢
        intro hp
        refine hq ?_
        cases hn : rule.className with
        | none => simp [hn] at hp
        | some name =>
            simp only [hn, Option.map_some, Option.getD_some] at hp ⊢
            exact h.hasClass hp
      · exact .inr hq

end

theorem verdict_cons (profile : Profile) (rule : Allow.Rule) (rules : List Allow.Rule)
    (d : Descriptor) :
    verdict profile (rule :: rules) d =
      (verdict? profile rule d).getD (verdict profile rules d) := by
  rw [verdict, List.findSome?_cons]
  cases verdict? profile rule d <;> rfl

/-- Every verdict asks for less than all classes. -/
theorem verdict_within_all (profile : Profile) (rules : List Allow.Rule) (d : Descriptor) :
    (Verdict.needs d.classes).Within (verdict profile rules d) := by
  cases hv : verdict profile rules d with
  | admitted => exact .admitted _
  | needs cs => exact .needs (subset_of_verdict hv)

/--
The two lists are followed together.  A rule that stands in both gives the same verdict or
admits in the longer one; a rule that was inserted can only admit.
-/
theorem verdict_within {p q : Profile} (h : p.Within q) {rules rules' : List Allow.Rule}
    (hr : Allow.Grows Allow.Rule.kind rules rules') (d : Descriptor) :
    (verdict p rules d).Within (verdict q rules' d) := by
  induction hr with
  | atEnd extra => exact verdict_within_all q extra d
  | keep rule _ ih =>
      rw [verdict_cons, verdict_cons]
      rcases verdict?_cases_of_within h rule d with hq | hq
      · rw [hq]
        cases verdict? p rule d with
        | none => exact ih
        | some v => exact .refl v
      · rw [hq]
        exact .admitted _
  | @insert rule _ _ hk _ ih =>
      rw [verdict_cons]
      rcases verdict?_cases_of_kind_ne (p := q) (d := d) hk with hq | hq
      · rw [hq]
        exact ih
      · rw [hq]
        exact .admitted _

theorem isExempt_of_within {c c' : Catalog} (h : c.Within c') {d : Descriptor}
    (hd : isExempt c d = true) : isExempt c' d = true := by
  simp only [isExempt, Bool.or_eq_true] at hd ⊢
  rcases hd with ((hd | hd) | hd) | hd
  · exact .inl (.inl (.inl hd))
  · exact .inl (.inl (.inr (h.hasPreservedPseudo hd)))
  · exact .inl (.inr (h.isCritical hd))
  · exact .inr hd

/-- The second inclusion knows more names, preserves more and allows more. -/
structure Within (m n : Inclusion) : Prop where
  profile : m.profile.Within n.profile
  catalog : m.catalog.Within n.catalog
  allow : Allow.Grows Allow.Rule.kind m.allow n.allow

namespace Within

variable {m n : Inclusion}

theorem includes (h : m.Within n) {d : Descriptor} (hd : m.includes d = true) :
    n.includes d = true := by
  rw [Inclusion.includes, Bool.or_eq_true] at hd ⊢
  rcases hd with hd | hd
  · exact .inl (isExempt_of_within h.catalog hd)
  · right
    have hv := verdict_within h.profile h.allow d
    generalize verdict m.profile m.allow d = v at hd hv
    generalize verdict n.profile n.allow d = w at hv ⊢
    cases hv with
    | admitted => rfl
    | needs hsub =>
        simp only [Bool.and_eq_true] at hd ⊢
        obtain ⟨⟨hclasses, hids⟩, htags⟩ := hd
        have hfewer : m.profile.hasAllClasses _ = true :=
          NameSet.containsAll_iff.mpr fun x hx =>
            NameSet.containsAll_iff.mp hclasses x (hsub hx)
        exact ⟨⟨h.profile.hasAllClasses hfewer, h.profile.hasAllIds hids⟩,
          h.profile.hasAllTags htags⟩

theorem includesAny (h : m.Within n) {ds : List Descriptor} (hd : m.includesAny ds = true) :
    n.includesAny ds = true := by
  obtain ⟨d, hmem, hd⟩ := List.any_eq_true.mp hd
  exact List.any_eq_true.mpr ⟨d, hmem, h.includes hd⟩

theorem rendersWithin (h : m.Within n) (rules : List Node) : m.RendersWithin n rules := by
  refine .of_keeps fun l _ hk => ?_
  cases hs : l.selectors with
  | none => rfl
  | some ds =>
      rw [hs] at hk
      exact h.includesAny hk

end Within

end Inclusion

end StylePrune
