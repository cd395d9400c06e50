import StylePrune.Proofs.Markup.Growth

/-!
# Building profiles

Profiles are ordered by the names that they have, and everything that is done to build one takes
it to the least profile above it that has some further names.  So two profiles are the same as
sets as soon as the same profiles are above them, and neither the order nor the repetition of the
steps in which a profile is built can be seen in it.
-/

namespace StylePrune

namespace Profile

variable {p q r : Profile}

/-! ## Equality as sets -/

theorem sameAs_iff : p.sameAs q = true ↔ p.Within q ∧ q.Within p := by
  simp only [sameAs, Bool.and_eq_true, NameSet.sameAs_iff]
  constructor
  · rintro ⟨⟨hclasses, htags⟩, hids⟩
    exact ⟨⟨fun x => (hclasses x).mp, fun x => (htags x).mp, fun x => (hids x).mp⟩,
      ⟨fun x => (hclasses x).mpr, fun x => (htags x).mpr, fun x => (hids x).mpr⟩⟩
  · rintro ⟨hpq, hqp⟩
    exact ⟨⟨fun x => ⟨hpq.classes x, hqp.classes x⟩, fun x => ⟨hpq.tags x, hqp.tags x⟩⟩,
      fun x => ⟨hpq.ids x, hqp.ids x⟩⟩

/-- Profiles that are within the same profiles have the same names. -/
theorem sameAs_of_forall_within_iff (h : ∀ r : Profile, p.Within r ↔ q.Within r) :
    p.sameAs q = true :=
  sameAs_iff.mpr ⟨(h q).mpr (.refl q), (h p).mp (.refl p)⟩

/-! ## Steps -/

/-- One thing that is done to a profile while it is built. -/
inductive Step
  | withClasses (names : List String)
  | withTags (names : List String)
  | withIds (names : List String)
  | insertClass (name : String)
  | insertTag (name : String)
  | insertId (name : String)
  | merge (other : Profile)
  | withCatalog (catalog : Catalog)

def apply (p : Profile) : Step → Profile
  | .withClasses names => p.withClasses names
  | .withTags names => p.withTags names
  | .withIds names => p.withIds names
  | .insertClass name => p.insertClass name
  | .insertTag name => p.insertTag name
  | .insertId name => p.insertId name
  | .merge other => p.merge other
  | .withCatalog catalog => p.withCatalog catalog

def build (p : Profile) (steps : List Step) : Profile :=
  steps.foldl apply p

theorem within_iff : p.Within q ↔
    (∀ x ∈ p.classes, x ∈ q.classes) ∧ (∀ x ∈ p.tags, x ∈ q.tags) ∧ ∀ x ∈ p.ids, x ∈ q.ids :=
  ⟨fun h => ⟨h.classes, h.tags, h.ids⟩, fun ⟨hclasses, htags, hids⟩ => ⟨hclasses, htags, hids⟩⟩

/-- A step adds the names that it gives to an empty profile, and nothing else. -/
theorem apply_within_iff (p : Profile) (step : Step) :
    (p.apply step).Within r ↔ p.Within r ∧ (empty.apply step).Within r := by
  rw [within_iff, within_iff, within_iff]
  -- Every step only inserts names, whatever the profile has already.
  cases step <;>
    simp only [apply, withClasses, withTags, withIds, insertClass, insertTag, insertId, merge,
      mem_classes_withCatalog, mem_tags_withCatalog, ids_withCatalog, NameSet.mem_insertMany,
      NameSet.mem_insert, NameSet.mem_union, empty, NameSet.not_mem_empty, or_false, or_imp,
      forall_and] <;>
    grind

theorem build_within_iff (p : Profile) (steps : List Step) :
    (p.build steps).Within r ↔ p.Within r ∧ ∀ step ∈ steps, (empty.apply step).Within r := by
  induction steps generalizing p with
  | nil => simp [build]
  | cons step rest ih =>
      have hrest := ih (p.apply step)
      rw [build] at hrest ⊢
      rw [List.foldl_cons, hrest, apply_within_iff, List.forall_mem_cons, and_assoc]

/-- The same steps in another order, or more than once, build the same set of names. -/
theorem sameAs_build {steps steps' : List Step} (h : ∀ step, step ∈ steps ↔ step ∈ steps')
    (p : Profile) : (p.build steps).sameAs (p.build steps') = true := by
  refine sameAs_of_forall_within_iff fun r => ?_
  rw [build_within_iff, build_within_iff]
  simp only [h]

/-! ## Merging -/

/-- A merge is the least profile above both. -/
theorem merge_within_iff : (p.merge q).Within r ↔ p.Within r ∧ q.Within r := by
  rw [within_iff, within_iff, within_iff]
  simp only [merge, NameSet.mem_union, or_imp, forall_and]
  grind

theorem withCatalog_within_iff (p : Profile) (catalog : Catalog) :
    (p.withCatalog catalog).Within r ↔ p.Within r ∧ (empty.withCatalog catalog).Within r :=
  apply_within_iff p (.withCatalog catalog)

theorem sameAs_merge_comm (p q : Profile) : (p.merge q).sameAs (q.merge p) = true :=
  sameAs_of_forall_within_iff fun r => by
    rw [merge_within_iff, merge_within_iff, and_comm]

theorem sameAs_merge_assoc (p q s : Profile) :
    ((p.merge q).merge s).sameAs (p.merge (q.merge s)) = true :=
  sameAs_of_forall_within_iff fun r => by
    simp only [merge_within_iff, and_assoc]

theorem sameAs_merge_self (p : Profile) : (p.merge p).sameAs p = true :=
  sameAs_of_forall_within_iff fun r => by
    rw [merge_within_iff, and_self]

theorem sameAs_withCatalog_merge (p q : Profile) (catalog : Catalog) :
    ((p.merge q).withCatalog catalog).sameAs
      ((p.withCatalog catalog).merge (q.withCatalog catalog)) = true :=
  sameAs_of_forall_within_iff fun r => by
    rw [withCatalog_within_iff, merge_within_iff, merge_within_iff, withCatalog_within_iff p,
      withCatalog_within_iff q, and_and_and_comm, and_self]

theorem sameAs_withCatalog_withCatalog (p : Profile) (catalog : Catalog) :
    ((p.withCatalog catalog).withCatalog catalog).sameAs (p.withCatalog catalog) = true :=
  sameAs_of_forall_within_iff fun r => by
    rw [withCatalog_within_iff (p.withCatalog catalog), withCatalog_within_iff p, and_assoc,
      and_self]

end Profile

end StylePrune
