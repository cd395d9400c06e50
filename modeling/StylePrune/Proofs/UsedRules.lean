import StylePrune.Proofs.Inclusion
import StylePrune.Proofs.Pruning
import StylePrune.Proofs.Selector.Matching
import StylePrune.Proofs.Selector.RoundTrip
import StylePrune.Proofs.Tree.Context

/-!
# Used rules

A rule one of whose selectors matches an element of a page is in the pruned stylesheet.
-/

namespace StylePrune

namespace Selector

/-- Where all selectors can be decomposed each has its descriptor among the others. -/
theorem exists_mem_of_describe? {texts : List String} {ds : List Descriptor}
    (h : describe? texts = some ds) {text : String} (ht : text ∈ texts) :
    ∃ d ∈ ds, decompose text = .ok d := by
  induction texts generalizing ds with
  | nil => cases ht
  | cons first rest ih =>
      simp only [describe?, List.mapM_cons, bind, Option.bind_eq_some_iff, pure,
        Option.some.injEq] at h
      obtain ⟨d, hd, rest', hrest, rfl⟩ := h
      rcases List.mem_cons.mp ht with rfl | ht
      · cases hf : decompose text with
        | error e => simp [hf, Except.toOption] at hd
        | ok d' =>
            obtain rfl : d' = d := by simpa [hf, Except.toOption] using hd
            exact ⟨d', List.mem_cons_self, rfl⟩
      · obtain ⟨d', hmem, hd'⟩ := ih hrest ht
        exact ⟨d', List.mem_cons_of_mem d hmem, hd'⟩

end Selector

namespace Inclusion

open Selector

/-- A rule with a selector that is kept is kept, also where another cannot be decomposed. -/
theorem keeps_describe? {m : Inclusion} {text : String} {d : Descriptor}
    (hd : decompose text = .ok d) (hm : m.includes d = true) {texts : List String}
    (ht : text ∈ texts) : Node.keeps m.includesAny (describe? texts) = true := by
  cases hds : describe? texts with
  | none => rfl
  | some ds =>
      obtain ⟨d', hmem, hd'⟩ := exists_mem_of_describe? hds ht
      obtain rfl : d = d' := Except.ok.inj (hd.symm.trans hd')
      exact List.any_eq_true.mpr ⟨d, hmem, hm⟩

/-- A matching selector mentions only names that a profile of the document has. -/
theorem uses_of_matches {doc : Element} {meaning : Meaning} {place : Place} {sel : Canonical}
    (h : sel.Matches doc meaning place) {p : Profile} (hp : p.covers doc = true) :
    p.uses (Descriptor.ofNames sel.text sel.names) = true := by
  obtain ⟨hclasses, hids, htags⟩ := h.knows hp
  simp only [Profile.uses, Profile.hasAllClasses, Profile.hasAllIds, Profile.hasAllTags,
    Descriptor.ofNames, Bool.and_eq_true, NameSet.containsAll_iff, List.mem_map,
    forall_exists_index, and_imp, forall_apply_eq_imp_iff₂]
  exact ⟨⟨hclasses, hids⟩, htags⟩

/-- A leaf that is kept is printed at its place in every rule tree. -/
theorem render_fill_of_keeps {m : Inclusion} {selectors : Option (List Descriptor)}
    (h : Node.keeps m.includesAny selectors = true) (css : String) (context : Node.Context) :
    m.render (context.fill (.leaf css selectors)) = context.render m.includesAny ⟨css, 1, 0⟩ := by
  rw [render, Node.Context.renderList_fill, Node.render, h, if_pos rfl]

theorem infix_render_fill_of_keeps {m : Inclusion} {selectors : Option (List Descriptor)}
    (h : Node.keeps m.includesAny selectors = true) (css : String) (context : Node.Context) :
    css.toList <:+: (m.render (context.fill (.leaf css selectors))).css.toList := by
  rw [render_fill_of_keeps h]
  exact context.infix_render m.includesAny ⟨css, 1, 0⟩

section

variable {doc : Element} {meaning : Meaning} {place : Place} {sel : Canonical}

/-- Whatever the catalog and the allow list are, a selector that matches is kept. -/
theorem exists_includes_of_matches (h : sel.Matches doc meaning place) {m : Inclusion}
    (hp : m.profile.covers doc = true) : ∃ d, decompose sel.text = .ok d ∧ m.includes d = true :=
  ⟨_, sel.reads_trim.decompose_eq, includes_of_uses (uses_of_matches h hp)⟩

theorem keeps_of_matches (h : sel.Matches doc meaning place) {m : Inclusion}
    (hp : m.profile.covers doc = true) {texts : List String} (ht : sel.text ∈ texts) :
    Node.keeps m.includesAny (describe? texts) = true := by
  obtain ⟨d, hd, hm⟩ := exists_includes_of_matches h hp
  exact keeps_describe? hd hm ht

/-- A pruning that does not fall back prints a rule with a selector that matches. -/
theorem infix_prune_of_matches (h : sel.Matches doc meaning place) {engine : Allow.Engine}
    {settings : Settings} {usage : Usage} (hp : usage.profile.covers doc = true)
    {texts : List String} (ht : sel.text ∈ texts) {s : Sheet} {css : String} {context : Node.Context}
    (hr : s.rules? = some (context.fill (.leaf css (describe? texts)))) :
    (s.prune engine settings usage).1 = .unchanged s.content ∨
      css.toList <:+: (s.prune engine settings usage).1.css.toList := by
  by_cases hf : s.HasBrokenEntry engine (settings.entries usage.allow) ∨ s.IsUnreadable
  · left
    rw [Sheet.prune_of_fallback hf]
  · right
    obtain ⟨allow, rules, -, hrules, hprune⟩ := Sheet.exists_prune_eq hf
    obtain rfl := Option.some.inj (hr.symm.trans hrules)
    rw [hprune]
    have hp' : (Sheet.inclusion settings usage allow).profile.covers doc = true :=
      (Profile.within_withCatalog usage.profile settings.catalog).covers doc hp
    exact infix_render_fill_of_keeps (keeps_of_matches h hp' ht) css context

/--
A selector that matches an element of a document is kept whatever the catalog and the allow
list are, if the profile knows the document.  A rule with such a selector is printed at its
place in every rule tree.
-/
theorem render_fill_of_matches (h : sel.Matches doc meaning place) (m : Inclusion)
    (hp : m.profile.covers doc = true) :
    (∃ d, decompose sel.text = .ok d ∧ m.includes d = true) ∧
      ∀ texts : List String, sel.text ∈ texts →
        Node.keeps m.includesAny (describe? texts) = true ∧
          ∀ (css : String) (context : Node.Context),
            m.render (context.fill (.leaf css (describe? texts))) =
                context.render m.includesAny ⟨css, 1, 0⟩ ∧
              css.toList <:+:
                (m.render (context.fill (.leaf css (describe? texts)))).css.toList := by
  refine ⟨exists_includes_of_matches h hp, fun texts ht => ?_⟩
  have hkeep := keeps_of_matches h hp ht
  exact ⟨hkeep, fun css context =>
    ⟨render_fill_of_keeps hkeep css context, infix_render_fill_of_keeps hkeep css context⟩⟩

end

def cardPage : Element :=
  .node "body" ["home"] none [.node "div" ["sm:card", "10"] (some "1a") []]

/-- The selector of the card, with escapes, an attribute selector and a pseudo-class. -/
def cardSelector : Canonical where
  first := ⟨.tag { chars := ['b', 'o', 'd', 'y'] }, []⟩
  rest := [(.child, ⟨.universal, [
    .cls { chars := ['s', 'm', ':', 'c', 'a', 'r', 'd'] },
    .cls { chars := ['1', '0'] },
    .attr { chars := ['t', 'i', 't', 'l', 'e'] }
      (some { operator := .contains, value := ['a', ':', 'b', ']', '"'] }),
    .pseudo false { chars := ['n', 'o', 't'] }
      (some ⟨['(', ')'], .nested .nil .nil⟩),
    .id { chars := ['1', 'a'] }]⟩)]

example : cardSelector.text =
    "body > *.sm\\:card.\\31 0[title*=\"a:b]\\\"\"]:not(())#\\31 a" := by
  cbv

def cardInclusion : Inclusion where
  profile := Profile.empty.withTags ["body", "div"] |>.withClasses ["home", "sm:card", "10"]
    |>.withIds ["1a"]
  catalog := .minimal
  allow := [⟨.leading, some "other", none⟩]

theorem matches_cardSelector : cardSelector.Matches cardPage (fun _ _ => True) [0] := by
  refine ⟨[], ⟨_, rfl, rfl, by simp [cardSelector]⟩, [0], ⟨0, rfl⟩, ⟨_, rfl, trivial, ?_⟩, rfl⟩
  simp only [List.forall_mem_cons, List.not_mem_nil, false_imp_iff, implies_true, and_true]
  refine ⟨?_, ?_, trivial, trivial, rfl⟩
  · exact (by decide : String.ofList ['s', 'm', ':', 'c', 'a', 'r', 'd'] ∈ ["sm:card", "10"])
  · exact (by decide : String.ofList ['1', '0'] ∈ ["sm:card", "10"])

/-- The rule of the card is printed inside its grouping rule. -/
theorem render_fill_of_matches_card :
    cardSelector.Matches cardPage (fun _ _ => True) [0] ∧
      cardInclusion.profile.covers cardPage = true ∧
      ∀ css, css.toList <:+: (cardInclusion.render [.container "@media print"
        [.leaf css (describe? [".unused", cardSelector.text])]]).css.toList := by
  have hp : cardInclusion.profile.covers cardPage = true := by decide
  have hmem : cardSelector.text ∈ [".unused", cardSelector.text] := by simp
  exact ⟨matches_cardSelector, hp, fun css =>
    (((render_fill_of_matches matches_cardSelector cardInclusion hp).2 _ hmem).2 css
      (.inside [] "@media print" (.here [] []) [])).2⟩

end Inclusion

end StylePrune
