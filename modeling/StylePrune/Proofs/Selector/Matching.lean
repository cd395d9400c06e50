import StylePrune.Proofs.Markup.Document
import StylePrune.Proofs.Selector.Canonical

/-!
# Matching

Which elements of a document a canonical selector matches.  What attribute selectors and
pseudo-classes mean is left open; whatever they mean, all names of a selector that matches an
element are names of the document.
-/

namespace StylePrune

namespace Selector

abbrev Place := List Nat

/-- What attribute selectors and pseudo-classes are taken to say of the element at a place. -/
abbrev Meaning := Place → Part → Prop

def Part.Holds (meaning : Meaning) (place : Place) (e : Element) : Part → Prop
  | cls name => String.ofList name.chars ∈ e.classes
  | id name => e.id = some (String.ofList name.chars)
  | attr name comparison => meaning place (attr name comparison)
  | pseudo double name argument => meaning place (pseudo double name argument)

def Head.Holds (e : Element) : Head → Prop
  | nothing => True
  | universal => True
  | tag name => e.tag = String.ofList name.chars

def Compound.Matches (c : Compound) (doc : Element) (meaning : Meaning) (place : Place) : Prop :=
  ∃ e, doc.at? place = some e ∧ c.head.Holds e ∧ ∀ p ∈ c.parts, p.Holds meaning place e

/-- The places that a combinator allows for two elements. -/
def Combinator.Relates : Combinator → Place → Place → Prop
  | descendant, p, q => p <+: q ∧ p ≠ q
  | child, p, q => ∃ i, q = p ++ [i]
  | next, p, q => ∃ parent i, p = parent ++ [i] ∧ q = parent ++ [i + 1]
  | later, p, q => ∃ parent i j, i < j ∧ p = parent ++ [i] ∧ q = parent ++ [j]

/-- Compounds match elements that are related by the combinators before them, from `p` to `q`. -/
def MatchesRest (doc : Element) (meaning : Meaning) :
    Place → List (Combinator × Compound) → Place → Prop
  | p, [], q => p = q
  | p, (k, c) :: rest, q =>
      ∃ r, k.Relates p r ∧ c.Matches doc meaning r ∧ MatchesRest doc meaning r rest q

def Canonical.Matches (sel : Canonical) (doc : Element) (meaning : Meaning) (place : Place) :
    Prop :=
  ∃ p, sel.first.Matches doc meaning p ∧ MatchesRest doc meaning p sel.rest place

variable {doc : Element} {meaning : Meaning} {place : Place}

theorem MatchesRest.exists_of_mem {p : Place} {rest : List (Combinator × Compound)}
    (h : MatchesRest doc meaning p rest place) {c : Compound} (hc : c ∈ rest.map Prod.snd) :
    ∃ q, c.Matches doc meaning q := by
  induction rest generalizing p with
  | nil => cases hc
  | cons kc rest ih =>
      obtain ⟨k, d⟩ := kc
      obtain ⟨r, -, hd, hrest⟩ := h
      rcases List.mem_cons.mp hc with rfl | hc
      · exact ⟨r, hd⟩
      · exact ih hrest hc

/-- Every compound of a selector that matches an element matches an element. -/
theorem Canonical.Matches.exists_of_mem {sel : Canonical}
    (h : sel.Matches doc meaning place) {c : Compound} (hc : c ∈ sel.compounds) :
    ∃ q, c.Matches doc meaning q := by
  obtain ⟨p, hfirst, hrest⟩ := h
  rcases List.mem_cons.mp hc with rfl | hc
  · exact ⟨p, hfirst⟩
  · exact hrest.exists_of_mem hc

variable {profile : Profile} {c : Compound}

/-- A profile of the document has the names of a compound that matches an element of it. -/
theorem Compound.Matches.knows (h : c.Matches doc meaning place)
    (hp : profile.covers doc = true) :
    (∀ x ∈ (Names.ofCompound c).classes, String.ofList x ∈ profile.classes) ∧
      (∀ x ∈ (Names.ofCompound c).ids, String.ofList x ∈ profile.ids) ∧
      ∀ x ∈ (Names.ofCompound c).tags, String.ofList x ∈ profile.tags := by
  obtain ⟨e, he, hhead, hparts⟩ := h
  have hk := Profile.knows_of_at? hp he
  simp only [Profile.knows, Bool.and_eq_true, decide_eq_true_eq, Profile.hasAllClasses,
    Profile.hasAllIds, NameSet.containsAll_iff] at hk
  obtain ⟨⟨htag, hclasses⟩, hids⟩ := hk
  refine ⟨fun x hx => ?_, fun x hx => ?_, fun x hx => ?_⟩
  · obtain ⟨p, hp, hx⟩ := List.mem_filterMap.mp hx
    have hh := hparts p hp
    cases p with
    | cls name =>
        obtain rfl : name.chars = x := Option.some.inj hx
        exact hclasses _ hh
    | _ => cases hx
  · obtain ⟨p, hp, hx⟩ := List.mem_filterMap.mp hx
    have hh := hparts p hp
    cases p with
    | id name =>
        obtain rfl : name.chars = x := Option.some.inj hx
        exact hids _ (by rw [Part.Holds] at hh; simp [hh])
    | _ => cases hx
  · have hx := Option.mem_toList.mp hx
    cases hc : c.head with
    | tag name =>
        rw [hc] at hx hhead
        obtain rfl : name.chars = x := Option.some.inj hx
        rw [Head.Holds] at hhead
        rwa [← hhead]
    | _ =>
        rw [hc] at hx
        cases hx

/-- A profile of the document has the names of a selector that matches an element of it. -/
theorem Canonical.Matches.knows {sel : Canonical} (h : sel.Matches doc meaning place)
    (hp : profile.covers doc = true) :
    (∀ x ∈ sel.names.classes, String.ofList x ∈ profile.classes) ∧
      (∀ x ∈ sel.names.ids, String.ofList x ∈ profile.ids) ∧
      ∀ x ∈ sel.names.tags, String.ofList x ∈ profile.tags := by
  refine ⟨fun x hx => ?_, fun x hx => ?_, fun x hx => ?_⟩
  all_goals
    obtain ⟨c, hc, hx⟩ := List.mem_flatMap.mp hx
    obtain ⟨q, hq⟩ := h.exists_of_mem hc
  · exact (hq.knows hp).1 x hx
  · exact (hq.knows hp).2.1 x hx
  · exact (hq.knows hp).2.2 x hx

end Selector

end StylePrune
