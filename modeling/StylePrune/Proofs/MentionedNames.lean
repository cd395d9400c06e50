import StylePrune.Proofs.MoreMarkup
import StylePrune.Proofs.Pruning

/-!
# Mentioned names

A profile is asked for the names of the selectors of a tree and for the classes that entries of
the allow list are tied to.  Two profiles that answer alike there lead to the same rendering,
whatever else they know.
-/

namespace StylePrune

open Selector (Descriptor)

/-- The names that a profile may be asked for. -/
structure Mention where
  classes : List String
  ids : List String
  tags : List String

namespace Mention

/-- The classes that rules are tied to while a page uses them. -/
def tiedClasses (allow : List Allow.Rule) : List String :=
  allow.filterMap fun rule => if rule.kind = .whileUsed then rule.className else none

def ofDescriptors (ds : List Descriptor) (allow : List Allow.Rule) : Mention where
  classes := ds.flatMap Descriptor.classes ++ tiedClasses allow
  ids := ds.flatMap Descriptor.ids
  tags := ds.flatMap Descriptor.tags

def ofRules (rules : List Node) (allow : List Allow.Rule) : Mention :=
  ofDescriptors ((Node.leavesList rules).flatMap fun l => l.selectors.getD []) allow

theorem mem_tiedClasses {allow : List Allow.Rule} {rule : Allow.Rule} {name : String}
    (hrule : rule ∈ allow) (hkind : rule.kind = .whileUsed) (hname : rule.className = some name) :
    name ∈ tiedClasses allow := by
  rw [tiedClasses, List.mem_filterMap]
  exact ⟨rule, hrule, by rw [if_pos hkind, hname]⟩

end Mention

namespace Profile

structure AgreesOn (p q : Profile) (mention : Mention) : Prop where
  classes : ∀ name ∈ mention.classes, (name ∈ p.classes ↔ name ∈ q.classes)
  ids : ∀ name ∈ mention.ids, (name ∈ p.ids ↔ name ∈ q.ids)
  tags : ∀ name ∈ mention.tags, (name ∈ p.tags ↔ name ∈ q.tags)

namespace AgreesOn

variable {p q : Profile} {mention : Mention}

theorem withCatalog (h : p.AgreesOn q mention) (catalog : Catalog) :
    (p.withCatalog catalog).AgreesOn (q.withCatalog catalog) mention := by
  constructor
  · intro name hname
    rw [mem_classes_withCatalog, mem_classes_withCatalog, h.classes name hname]
  · intro name hname
    rw [ids_withCatalog, ids_withCatalog, h.ids name hname]
  · intro name hname
    rw [mem_tags_withCatalog, mem_tags_withCatalog, h.tags name hname]

theorem insertClass {name : String} (p : Profile) (h : name ∉ mention.classes) :
    (p.insertClass name).AgreesOn p mention := by
  refine ⟨?_, fun _ _ => Iff.rfl, fun _ _ => Iff.rfl⟩
  intro x hx
  have hne : x ≠ name := fun hxn => h (hxn ▸ hx)
  simp [Profile.insertClass, hne]

theorem insertId {name : String} (p : Profile) (h : name ∉ mention.ids) :
    (p.insertId name).AgreesOn p mention := by
  refine ⟨fun _ _ => Iff.rfl, ?_, fun _ _ => Iff.rfl⟩
  intro x hx
  have hne : x ≠ name := fun hxn => h (hxn ▸ hx)
  simp [Profile.insertId, hne]

theorem insertTag {name : String} (p : Profile) (h : name ∉ mention.tags) :
    (p.insertTag name).AgreesOn p mention := by
  refine ⟨fun _ _ => Iff.rfl, fun _ _ => Iff.rfl, ?_⟩
  intro x hx
  have hne : x ≠ name := fun hxn => h (hxn ▸ hx)
  simp [Profile.insertTag, hne]

end AgreesOn

end Profile

/-- Two sets that agree on some names contain them all or miss one. -/
theorem NameSet.containsAll_congr {s t : NameSet} {names : List String}
    (h : ∀ name ∈ names, (name ∈ s ↔ name ∈ t)) : s.containsAll names = t.containsAll names := by
  rw [Bool.eq_iff_iff, containsAll_iff, containsAll_iff]
  constructor
  · intro hs name hname
    exact (h name hname).mp (hs name hname)
  · intro ht name hname
    exact (h name hname).mpr (ht name hname)

namespace Inclusion

variable {p q : Profile} {allow : List Allow.Rule} {d : Descriptor}

/-- A rule asks the profile for the class that it is tied to. -/
theorem verdict?_congr {rule : Allow.Rule}
    (h : ∀ name, rule.kind = .whileUsed → rule.className = some name →
      (name ∈ p.classes ↔ name ∈ q.classes)) :
    verdict? p rule d = verdict? q rule d := by
  cases hk : rule.kind with
  | leading => simp only [verdict?, hk]
  | any => simp only [verdict?, hk]
  | whileUsed =>
      have hclass : rule.className.map p.hasClass = rule.className.map q.hasClass := by
        cases hn : rule.className with
        | none => rfl
        | some name =>
            have hiff := h name hk hn
            simp only [Option.map_some, Profile.hasClass, hiff]
      simp only [verdict?, hk, hclass]

/-- The whole list is gone through alike, also where it is left early. -/
theorem verdict_congr
    (h : ∀ name ∈ Mention.tiedClasses allow, (name ∈ p.classes ↔ name ∈ q.classes)) :
    verdict p allow d = verdict q allow d := by
  have hstep : ∀ rule ∈ allow, verdict? p rule d = verdict? q rule d := by
    intro rule hrule
    apply verdict?_congr
    intro name hkind hname
    exact h name (Mention.mem_tiedClasses hrule hkind hname)
  clear h
  induction allow with
  | nil => rfl
  | cons rule rest ih =>
      have hrest := ih fun r hr => hstep r (List.mem_cons_of_mem rule hr)
      rw [verdict_cons, verdict_cons, hstep rule List.mem_cons_self, hrest]

/-- What is asked after the allow list are names of the selector, perhaps not all of them. -/
theorem includes_congr {catalog : Catalog} {ds : List Descriptor} (hd : d ∈ ds)
    (h : p.AgreesOn q (.ofDescriptors ds allow)) :
    includes ⟨p, catalog, allow⟩ d = includes ⟨q, catalog, allow⟩ d := by
  have hverdict : verdict p allow d = verdict q allow d :=
    verdict_congr fun name hname => h.classes name (List.mem_append_right _ hname)
  have hids : p.hasAllIds d.ids = q.hasAllIds d.ids :=
    NameSet.containsAll_congr fun name hname =>
      h.ids name (List.mem_flatMap.mpr ⟨d, hd, hname⟩)
  have htags : p.hasAllTags d.tags = q.hasAllTags d.tags :=
    NameSet.containsAll_congr fun name hname =>
      h.tags name (List.mem_flatMap.mpr ⟨d, hd, hname⟩)
  simp only [includes, hverdict, hids, htags]
  cases hv : verdict q allow d with
  | admitted => rfl
  | needs classes =>
      have hclasses : p.hasAllClasses classes = q.hasAllClasses classes := by
        apply NameSet.containsAll_congr
        intro name hname
        have hmem : name ∈ d.classes := subset_of_verdict hv hname
        exact h.classes name (List.mem_append_left _ (List.mem_flatMap.mpr ⟨d, hd, hmem⟩))
      simp only [hclasses]

theorem includesAny_congr {m n : Inclusion} {ds : List Descriptor}
    (h : ∀ d ∈ ds, m.includes d = n.includes d) : m.includesAny ds = n.includesAny ds := by
  induction ds with
  | nil => rfl
  | cons d rest ih =>
      have hrest := ih fun e he => h e (List.mem_cons_of_mem d he)
      rw [includesAny, includesAny, List.any_cons, List.any_cons, h d List.mem_cons_self]
      exact congrArg _ hrest

theorem render_congr {catalog : Catalog} {rules : List Node}
    (h : p.AgreesOn q (.ofRules rules allow)) :
    render ⟨p, catalog, allow⟩ rules = render ⟨q, catalog, allow⟩ rules := by
  refine Node.renderList_congr fun l hl => ?_
  cases hs : l.selectors with
  | none => rfl
  | some ds =>
      refine includesAny_congr fun d hd => ?_
      have hmem : d ∈ (Node.leavesList rules).flatMap fun l => l.selectors.getD [] :=
        List.mem_flatMap.mpr ⟨l, hl, by rw [hs]; exact hd⟩
      exact includes_congr hmem h

end Inclusion

/-- A pruning asks for the names of the tree that it renders. -/
theorem Sheet.prune_congr {engine : Allow.Engine} {s : Sheet} {settings : Settings}
    {entries : List Allow.Entry} {p q : Profile}
    (h : ∀ rules allow, s.rules? = some rules →
      s.allowRules engine (settings.entries entries) = .ok allow →
      p.AgreesOn q (.ofRules rules allow)) :
    s.prune engine settings ⟨p, entries⟩ = s.prune engine settings ⟨q, entries⟩ := by
  rw [prune, prune]
  cases hallow : s.allowRules engine (settings.entries entries) with
  | error e => rfl
  | ok allow =>
      cases hrules : s.rules? with
      | none => rfl
      | some rules =>
          have hagree := (h rules allow hrules hallow).withCatalog settings.catalog
          have hrender : Inclusion.render ⟨p.withCatalog settings.catalog, settings.catalog, allow⟩
              rules = Inclusion.render ⟨q.withCatalog settings.catalog, settings.catalog, allow⟩
              rules := Inclusion.render_congr hagree
          simp only [inclusion, hrender]

namespace Inclusion

/--
Two profiles that agree on the names of a tree and on the classes that the allow list is tied to
lead to the same text and the same counts, with the names of the catalog or without them.  So a
name that is mentioned nowhere can come and go, and a pruning depends on a profile only for the
names that its tree and its entries mention.
-/
theorem render_eq_of_agreesOn (rules : List Node) (catalog : Catalog) (allow : List Allow.Rule) :
    (∀ p q : Profile, p.AgreesOn q (.ofRules rules allow) →
      render ⟨p, catalog, allow⟩ rules = render ⟨q, catalog, allow⟩ rules ∧
      (ofProfile catalog allow p).render rules = (ofProfile catalog allow q).render rules) ∧
    (∀ (p : Profile) (name : String), let mention := Mention.ofRules rules allow
      (name ∉ mention.classes →
        (ofProfile catalog allow (p.insertClass name)).render rules =
          (ofProfile catalog allow p).render rules) ∧
      (name ∉ mention.ids →
        (ofProfile catalog allow (p.insertId name)).render rules =
          (ofProfile catalog allow p).render rules) ∧
      (name ∉ mention.tags →
        (ofProfile catalog allow (p.insertTag name)).render rules =
          (ofProfile catalog allow p).render rules)) ∧
    (∀ (engine : Allow.Engine) (s : Sheet) (settings : Settings) (entries : List Allow.Entry)
        (p q : Profile),
      s.rules? = some rules → s.allowRules engine (settings.entries entries) = .ok allow →
      p.AgreesOn q (.ofRules rules allow) →
      s.prune engine settings ⟨p, entries⟩ = s.prune engine settings ⟨q, entries⟩) := by
  refine ⟨?_, ?_, ?_⟩
  · intro p q h
    exact ⟨render_congr h, render_congr (h.withCatalog catalog)⟩
  · intro p name
    refine ⟨fun h => ?_, fun h => ?_, fun h => ?_⟩
    · exact render_congr ((Profile.AgreesOn.insertClass p h).withCatalog catalog)
    · exact render_congr ((Profile.AgreesOn.insertId p h).withCatalog catalog)
    · exact render_congr ((Profile.AgreesOn.insertTag p h).withCatalog catalog)
  · intro engine s settings entries p q hrules hallow h
    apply Sheet.prune_congr
    intro rules' allow' hrules' hallow'
    obtain rfl : rules = rules' := Option.some.inj (hrules.symm.trans hrules')
    obtain rfl : allow = allow' := Except.ok.inj (hallow.symm.trans hallow')
    exact h

/-- A leading class, and a class that cells depend on. -/
def cellAllow : List Allow.Rule := [
  ⟨.leading, some "menu", none⟩,
  ⟨.whileUsed, some "grid", (Pattern.parse? "td$").map fun regex => ⟨"td$", regex⟩⟩]

/-- The class that an entry is tied to makes the cells stay, and further names change nothing. -/
theorem render_eq_of_agreesOn_cells :
    let p := Profile.empty.withClasses ["grid"]
    let q := ((Profile.empty.withClasses ["sidebar", "grid"]).withIds ["main"]).withTags ["nav"]
    let sheet : Sheet := { Sheet.new "page" "" "" with tree := some menuRules }
    (p.AgreesOn q (.ofRules menuRules cellAllow) ∧
      render ⟨p, .minimal, cellAllow⟩ menuRules =
        ⟨".menu{}@media print { table td{} }", 2, 0⟩) ∧
    render ⟨q, .minimal, cellAllow⟩ menuRules =
      ⟨".menu{}@media print { table td{} }", 2, 0⟩ ∧
    (ofProfile .full cellAllow (q.insertClass "footer")).render menuRules =
      (ofProfile .full cellAllow q).render menuRules ∧
    sheet.prune .unlimited ⟨.minimal, false⟩ ⟨p, [.leading "menu"]⟩ =
      sheet.prune .unlimited ⟨.minimal, false⟩ ⟨q, [.leading "menu"]⟩ := by
  intro p q sheet
  have hagree : p.AgreesOn q (.ofRules menuRules cellAllow) :=
    ⟨by decide +kernel, by decide +kernel, by decide +kernel⟩
  have hp : render ⟨p, .minimal, cellAllow⟩ menuRules =
      ⟨".menu{}@media print { table td{} }", 2, 0⟩ := by
    decide +kernel
  have hclass : "footer" ∉ (Mention.ofRules menuRules cellAllow).classes := by decide +kernel
  have hallow : sheet.allowRules .unlimited (Settings.entries ⟨.minimal, false⟩ [.leading "menu"]) =
      .ok [⟨.leading, some "menu", none⟩] := by
    decide +kernel
  have hfewer : p.AgreesOn q (.ofRules menuRules [⟨.leading, some "menu", none⟩]) :=
    ⟨by decide +kernel, by decide +kernel, by decide +kernel⟩
  refine ⟨⟨hagree, hp⟩, ?_, ?_, ?_⟩
  · rw [← hp]
    exact ((render_eq_of_agreesOn menuRules .minimal cellAllow).1 p q hagree).1.symm
  · exact ((render_eq_of_agreesOn menuRules .full cellAllow).2.1 q "footer").1 hclass
  · have hprune := (render_eq_of_agreesOn menuRules .minimal [⟨.leading, some "menu", none⟩]).2.2
    exact hprune .unlimited sheet _ _ p q rfl hallow hfewer

end Inclusion

end StylePrune
