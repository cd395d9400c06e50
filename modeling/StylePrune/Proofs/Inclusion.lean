import StylePrune.Inclusion

/-!
# Inclusion of used selectors

An allow list can admit a selector or spare it a class, but it cannot ask for more: a selector
whose names are all used is kept whatever the catalog and the allow list say.
-/

namespace StylePrune

open Selector (Descriptor)

namespace Profile

def uses (p : Profile) (d : Descriptor) : Bool :=
  p.hasAllClasses d.classes && p.hasAllIds d.ids && p.hasAllTags d.tags

end Profile

namespace Inclusion

/-- A rule asks only for classes of the selector. -/
theorem subset_of_verdict? {profile : Profile} {rule : Allow.Rule} {d : Descriptor}
    {classes : List String} (h : verdict? profile rule d = some (.needs classes)) :
    classes ⊆ d.classes := by
  unfold verdict? at h
  cases hk : rule.kind with
  | any =>
      simp only [hk] at h
      split at h <;> cases h
  | whileUsed =>
      simp only [hk] at h
      split at h <;> cases h
  | leading =>
      simp only [hk] at h
      cases hn : rule.className with
      | none => simp [hn] at h
      | some name =>
          simp only [hn] at h
          split at h
          · cases h
          · cases h
            exact List.filter_sublist.subset
          · cases h

/-- An allow list asks only for classes of the selector. -/
theorem subset_of_verdict {profile : Profile} {allow : List Allow.Rule} {d : Descriptor}
    {classes : List String} (h : verdict profile allow d = .needs classes) :
    classes ⊆ d.classes := by
  unfold verdict at h
  cases hf : allow.findSome? fun rule => verdict? profile rule d with
  | none =>
      rw [hf] at h
      cases h
      exact List.Subset.refl _
  | some v =>
      obtain ⟨rule, -, hr⟩ := List.exists_of_findSome?_eq_some hf
      rw [hf] at h
      obtain rfl : v = .needs classes := h
      exact subset_of_verdict? hr

/-- A selector whose names are all used is kept. -/
theorem includes_of_uses {m : Inclusion} {d : Descriptor} (h : m.profile.uses d = true) :
    m.includes d = true := by
  simp only [Profile.uses, Bool.and_eq_true, Profile.hasAllClasses,
    NameSet.containsAll_iff] at h
  obtain ⟨⟨hclasses, hids⟩, htags⟩ := h
  rw [includes, Bool.or_eq_true]
  right
  cases hv : verdict m.profile m.allow d with
  | admitted => rfl
  | needs classes =>
      have hsub : m.profile.hasAllClasses classes = true :=
        NameSet.containsAll_iff.mpr fun x hx => hclasses x (subset_of_verdict hv hx)
      simp [hsub, hids, htags]

end Inclusion

end StylePrune
