import StylePrune.Proofs.Inclusion.Growth

/-!
# More markup

Rendering is monotone in what is known of the pages and in the catalog: a leaf that is kept for
some names is kept for more of them.  The profile of several pages has the names of each page.
-/

namespace StylePrune

namespace Inclusion

open Selector (Descriptor)

/-- The inclusion for a profile, where the catalog counts as used. -/
def ofProfile (catalog : Catalog) (allow : List Allow.Rule) (p : Profile) : Inclusion :=
  ⟨p.withCatalog catalog, catalog, allow⟩

theorem within_ofProfile {p q : Profile} {c d : Catalog} (h : p.Within q) (hc : c.Within d)
    (allow : List Allow.Rule) : (ofProfile c allow p).Within (ofProfile d allow q) where
  profile := h.withCatalog hc
  catalog := hc
  allow := .refl allow

/--
Every leaf that is kept for a profile and a catalog is kept for larger ones, so the rendering
keeps no fewer leaves, drops no more and has no less text.  It is so for each of some pages and
the profile of all of them, and for the minimal catalog and the full one.
-/
theorem rendersWithin_of_within (rules : List Node) (allow : List Allow.Rule) :
    (∀ (p q : Profile) (c d : Catalog), p.Within q → c.Within d →
      (ofProfile c allow p).RendersWithin (ofProfile d allow q) rules) ∧
    (∀ (pages : List Profile) (c : Catalog), ∀ page ∈ pages,
      (ofProfile c allow page).RendersWithin (ofProfile c allow (.mergeAll pages)) rules) ∧
    (∀ p : Profile,
      (ofProfile .minimal allow p).RendersWithin (ofProfile .full allow p) rules) := by
  refine ⟨?_, ?_, ?_⟩
  · intro p q c d hp hc
    exact (within_ofProfile hp hc allow).rendersWithin rules
  · intro pages c page hmem
    have hp := Profile.Within.mergeAll_of_mem hmem
    exact (within_ofProfile hp (.refl c) allow).rendersWithin rules
  · intro p
    exact (within_ofProfile (.refl p) .minimal_full allow).rendersWithin rules

/-- A rule for a menu, and one for the cells of tables inside a grouping rule. -/
def menuRules : List Node := [
  .leaf ".menu\x7b\x7d" (some [⟨".menu", ["menu"], [], [], []⟩]),
  .container "@media print" [
    .leaf "table td\x7b\x7d" (some [⟨"table td", [], [], ["table", "td"], []⟩])]]

def menuPages : List Profile :=
  [Profile.empty.withClasses ["menu"], Profile.empty.withTags ["table", "td"]]

/-- The table of the second page brings its rule to the first. -/
theorem rendersWithin_of_within_menu :
    let menu := ofProfile .minimal [] (.withClasses .empty ["menu"])
    let both := ofProfile .minimal [] (.mergeAll menuPages)
    let preserved := ofProfile .full [] (.withClasses (.withTags .empty ["table"]) ["menu"])
    (menu.render menuRules = ⟨".menu\x7b\x7d", 1, 1⟩ ∧
      both.render menuRules = ⟨".menu\x7b\x7d@media print \x7b table td\x7b\x7d \x7d", 2, 0⟩) ∧
      menu.RendersWithin both menuRules ∧ menu.RendersWithin preserved menuRules := by
  have hpage : Profile.empty.withClasses ["menu"] ∈ menuPages := List.mem_cons_self
  have hprofile : (Profile.empty.withClasses ["menu"]).Within
      ((Profile.empty.withTags ["table"]).withClasses ["menu"]) := by
    constructor <;> intro name <;> simp [Profile.withClasses, Profile.withTags, Profile.empty]
  have hall := rendersWithin_of_within menuRules []
  refine ⟨⟨by decide +kernel, by decide +kernel⟩, ?_, ?_⟩
  · exact hall.2.1 menuPages .minimal _ hpage
  · exact hall.1 _ _ .minimal .full hprofile .minimal_full

end Inclusion

end StylePrune
