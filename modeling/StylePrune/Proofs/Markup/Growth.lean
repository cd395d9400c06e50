import StylePrune.Proofs.Markup.Document

/-!
# Growing profiles and catalogs

A profile with more names and a catalog with more entries.  A profile to which a catalog is
added grows with both, and the profile of several pages has the names of each of them.
-/

namespace StylePrune

structure Catalog.Within (c d : Catalog) : Prop where
  classes : c.classes ⊆ d.classes
  tags : c.tags ⊆ d.tags
  pseudo : c.pseudo ⊆ d.pseudo
  critical : c.critical ⊆ d.critical

namespace Catalog.Within

variable {c d : Catalog}

theorem refl (c : Catalog) : c.Within c :=
  ⟨fun _ h => h, fun _ h => h, fun _ h => h, fun _ h => h⟩

theorem minimal_full : Catalog.minimal.Within .full where
  classes := List.nil_subset _
  tags := List.nil_subset _
  pseudo := List.nil_subset _
  critical := fun _ h => h

theorem hasPreservedPseudo (h : c.Within d) {selector : String}
    (hc : c.hasPreservedPseudo selector = true) : d.hasPreservedPseudo selector = true := by
  obtain ⟨p, hp, ho⟩ := List.any_eq_true.mp hc
  exact List.any_eq_true.mpr ⟨p, h.pseudo hp, ho⟩

theorem isCritical (h : c.Within d) {selector : String}
    (hc : c.isCritical selector = true) : d.isCritical selector = true := by
  obtain ⟨p, hp, ho⟩ := List.any_eq_true.mp hc
  exact List.any_eq_true.mpr ⟨p, h.critical hp, ho⟩

end Catalog.Within

namespace Profile

def mergeAll (ps : List Profile) : Profile :=
  ps.foldl merge empty

namespace Within

variable {p q r : Profile}

theorem refl (p : Profile) : p.Within p :=
  ⟨fun _ h => h, fun _ h => h, fun _ h => h⟩

theorem trans (hpq : p.Within q) (hqr : q.Within r) : p.Within r where
  classes _ h := hqr.classes _ (hpq.classes _ h)
  tags _ h := hqr.tags _ (hpq.tags _ h)
  ids _ h := hqr.ids _ (hpq.ids _ h)

theorem withCatalog (h : p.Within q) {c d : Catalog} (hc : c.Within d) :
    (p.withCatalog c).Within (q.withCatalog d) where
  classes name hn := by
    rw [mem_classes_withCatalog] at hn ⊢
    exact hn.imp (@hc.classes name) (h.classes name)
  tags name hn := by
    rw [mem_tags_withCatalog] at hn ⊢
    exact hn.imp (@hc.tags name) (h.tags name)
  ids := h.ids

theorem merge_left (p q : Profile) : p.Within (p.merge q) :=
  ⟨fun _ h => NameSet.mem_union.mpr (.inr h), fun _ h => NameSet.mem_union.mpr (.inr h),
    fun _ h => NameSet.mem_union.mpr (.inr h)⟩

theorem merge_right (p q : Profile) : q.Within (p.merge q) :=
  ⟨fun _ h => NameSet.mem_union.mpr (.inl h), fun _ h => NameSet.mem_union.mpr (.inl h),
    fun _ h => NameSet.mem_union.mpr (.inl h)⟩

theorem foldl_merge (p : Profile) (ps : List Profile) : p.Within (ps.foldl merge p) := by
  induction ps generalizing p with
  | nil => exact refl p
  | cons q rest ih => exact (merge_left p q).trans (ih (p.merge q))

/-- A page is within all pages. -/
theorem mergeAll_of_mem {ps : List Profile} (h : p ∈ ps) : p.Within (mergeAll ps) := by
  obtain ⟨before, after, rfl⟩ := List.append_of_mem h
  rw [mergeAll, List.foldl_append, List.foldl_cons]
  exact (merge_right _ p).trans (foldl_merge _ after)

theorem hasClass (h : p.Within q) {name : String} (hp : p.hasClass name = true) :
    q.hasClass name = true := by
  rw [Profile.hasClass, decide_eq_true_eq] at hp ⊢
  exact h.classes name hp

theorem hasAllClasses (h : p.Within q) {names : List String}
    (hp : p.hasAllClasses names = true) : q.hasAllClasses names = true :=
  NameSet.containsAll_iff.mpr fun x hx => h.classes x (NameSet.containsAll_iff.mp hp x hx)

theorem hasAllTags (h : p.Within q) {names : List String}
    (hp : p.hasAllTags names = true) : q.hasAllTags names = true :=
  NameSet.containsAll_iff.mpr fun x hx => h.tags x (NameSet.containsAll_iff.mp hp x hx)

theorem hasAllIds (h : p.Within q) {names : List String}
    (hp : p.hasAllIds names = true) : q.hasAllIds names = true :=
  NameSet.containsAll_iff.mpr fun x hx => h.ids x (NameSet.containsAll_iff.mp hp x hx)

end Within

end Profile

end StylePrune
