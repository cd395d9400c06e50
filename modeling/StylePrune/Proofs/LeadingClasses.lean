import StylePrune.Proofs.InclusionReading
import StylePrune.Proofs.SearchTerms
import StylePrune.Proofs.Selector.RoundTrip

/-!
# Leading classes

An entry for a leading class is compared with the text of a selector, in which the class is
serialized.  So the entry is of use for the classes whose serialization starts with the class
itself, as it does for identifiers.  Where it does not, the class has to be used like any other.
-/

namespace StylePrune

open Text
open Selector (Canonical Compound Label Part decompose serializeName)

namespace Selector

/-! ## Classes and their serializations -/

/-- The serialization of the class starts with the class. -/
def Label.IsRaw (c : Label) : Prop :=
  c.chars <+: serializeName c.chars

instance (c : Label) : Decidable c.IsRaw :=
  inferInstanceAs (Decidable (_ <+: _))

/-- A name takes at least as many characters as it has. -/
theorem length_readName_add_le (s : List Char) :
    (readName s).1.length + (readName s).2.length ≤ s.length := by
  fun_induction readName s with
  | case1 => simp
  | case2 c rest _ r ih =>
      simp only [r, List.length_cons] at ih ⊢
      omega
  | case3 => simp
  | case4 rest x tail hx r _ ih =>
      have := length_readEscape?_lt hx
      simp only [r, List.length_cons] at ih ⊢
      omega
  | case5 => simp

theorem Label.length_le_trimEnd (c : Label) :
    c.chars.length ≤ (trimEnd (serializeName c.chars)).length := by
  have h := length_readName_add_le (trimEnd (serializeName c.chars))
  rwa [c.spells.readName_trimEnd c.notBlank] at h

/-- Nothing behind the class makes up for its serialization, and trimming takes nothing of it. -/
theorem Label.prefix_trimEnd_iff (c : Label) (s : List Char) :
    c.chars <+: trimEnd (serializeName c.chars ++ s) ↔ c.IsRaw := by
  have hlength := c.length_le_trimEnd
  have htrim := isPrefix_trimEnd (serializeName c.chars)
  constructor
  · intro h
    exact List.prefix_of_prefix_length_le (h.trans (isPrefix_trimEnd _)) (List.prefix_append _ s)
      (hlength.trans htrim.length_le)
  · intro h
    rw [Text.trimEnd_append]
    split
    · exact List.prefix_of_prefix_length_le h htrim hlength
    · exact List.IsPrefix.trans h (List.prefix_append _ _)

/-! ## Identifiers -/

theorem serializeChars_of_isNameChar {s : List Char} (h : ∀ c ∈ s, isNameChar c = true) :
    serializeChars s = s := by
  induction s with
  | nil => rfl
  | cons c rest ih =>
      have hc : serializeChar c = [c] := if_pos (h c List.mem_cons_self)
      rw [serializeChars, List.flatMap_cons, hc, ← serializeChars,
        ih fun d hd => h d (List.mem_cons_of_mem c hd)]
      rfl

/-- A class in name characters that starts with no digit and no hyphen is its serialization. -/
theorem Label.isRaw_of_isName {c : Label} (hname : ∀ d ∈ c.chars, isNameChar d = true)
    (hstart : ∀ d ∈ c.chars.head?, d.isDigit = false ∧ d ≠ '-') : c.IsRaw := by
  obtain ⟨d, rest, hd⟩ := List.exists_cons_of_ne_nil c.ne_nil
  have hhead := hstart d (by simp [hd])
  have hserial : serializeName c.chars = c.chars := by
    rw [hd, serializeName.eq_4 _ (by simp [hhead.2]) (by simp [hhead.2]) (by simp [hhead.2]),
      serializeLead, if_neg (by simp [hhead.1]), ← hd, serializeChars_of_isNameChar hname]
  exact ⟨[], by rw [List.append_nil, hserial]⟩

end Selector

namespace Allow

theorem isInForce_leading {name : String} (h : name ≠ "") (id url : String) :
    (Entry.leading name).IsInForce id url := by
  refine ⟨rfl, ?_⟩
  simpa [Entry.leading, Entry.blank, Entry.hasItsClass] using Or.inr h

/-- An entry for a leading class makes one rule. -/
theorem compile_leading (engine : Engine) {name : String} (h : name ≠ "") (id url : String) :
    compile engine [.leading name] id url = .ok [⟨.leading, some name, none⟩] := by
  rw [compile_singleton (isInForce_leading h id url)]
  rfl

end Allow

namespace Inclusion

def startingWith (c : Label) (parts : List Part)
    (rest : List (Selector.Combinator × Compound)) : Canonical :=
  ⟨⟨.nothing, .cls c :: parts⟩, rest⟩

section

variable (c : Label) (parts : List Part) (rest : List (Selector.Combinator × Compound))

theorem exists_trimString_startingWith :
    ∃ s : List Char, trimString (startingWith c parts rest).text =
      "." ++ String.ofList (trimEnd (serializeName c.chars ++ s)) := by
  refine ⟨(Canonical.mk ⟨.nothing, parts⟩ rest).print, ?_⟩
  have hprint : (startingWith c parts rest).print =
      '.' :: (serializeName c.chars ++ (Canonical.mk ⟨.nothing, parts⟩ rest).print) := by
    simp [startingWith, Canonical.print, Compound.print, Selector.Head.print, Part.print]
  rw [trimString, Canonical.text, String.toList_ofList, trim_eq_trimEnd, hprint,
    dropBlanks_cons_of_not_isBlank (by decide), trimEnd_cons_of_not_isBlank (by decide),
    ← String.toList_inj]
  simp

/-- The rule for the class meets the selector exactly if the class starts its serialization. -/
theorem leadingHit_startingWith :
    leadingHit (String.ofList c.chars) (trimString (startingWith c parts rest).text) = .miss ↔
      ¬c.IsRaw := by
  obtain ⟨s, hs⟩ := exists_trimString_startingWith c parts rest
  rw [hs, leadingHit_dot, ← c.prefix_trimEnd_iff s]
  simp only [String.toList_ofList]
  split
  · rename_i hwhole
    rw [String.ofList_inj] at hwhole
    simp [hwhole]
  · split <;> simp_all

end

/-- What one rule for a leading class asks for. -/
theorem verdict_leading (used : Profile) (name : String) (d : Selector.Descriptor) :
    verdict used [⟨.leading, some name, none⟩] d =
      match leadingHit name d.selector with
      | .whole => .admitted
      | .part => .needs (d.classes.filter (· != name))
      | .miss => .needs d.classes := by
  rw [verdict, List.findSome?_singleton, verdict?]
  cases hhit : leadingHit name d.selector <;> simp [hhit]

/-- One rule for a leading class, where all other names are used. -/
theorem includes_leading_iff {d : Selector.Descriptor} {name : String} {used : Profile}
    {catalog : Catalog} (hname : name ∈ d.classes)
    (classes : ∀ c ∈ d.classes, c ≠ name → c ∈ used.classes) (ids : ∀ id ∈ d.ids, id ∈ used.ids)
    (tags : ∀ tag ∈ d.tags, tag ∈ used.tags) :
    includes ⟨used, catalog, [⟨.leading, some name, none⟩]⟩ d = true ↔
      isExempt catalog d = true ∨ leadingHit name d.selector ≠ .miss ∨ name ∈ used.classes := by
  have hids : used.hasAllIds d.ids = true := NameSet.containsAll_iff.mpr ids
  have htags : used.hasAllTags d.tags = true := NameSet.containsAll_iff.mpr tags
  have hothers : used.hasAllClasses (d.classes.filter (· != name)) = true := by
    simpa [Profile.hasAllClasses, NameSet.containsAll_iff] using classes
  have hall : used.hasAllClasses d.classes = true ↔ name ∈ used.classes := by
    rw [Profile.hasAllClasses, NameSet.containsAll_iff]
    refine ⟨fun h => h name hname, fun h c hc => ?_⟩
    by_cases hne : c = name
    · exact hne ▸ h
    · exact classes c hc hne
  rw [includes, Bool.or_eq_true, verdict_leading]
  refine or_congr_right ?_
  cases leadingHit name d.selector with
  | whole => simp
  | part => simp [hids, htags, hothers]
  | miss => simp [hids, htags, hall]

/--
Where the other classes, the ids and the tags of a selector that starts with a class are used, an
entry for the class keeps the selector exactly if the serialization of the class starts with the
class; else the selector is kept only if it is exempt or the class is used too.
-/
theorem includes_startingWith_iff (engine : Allow.Engine) (c : Label) (parts : List Part)
    (rest : List (Selector.Combinator × Compound)) (profile : Profile) (catalog : Catalog)
    (id url : String)
    (classes : ∀ x ∈ (startingWith c parts rest).names.classes, x ≠ c.chars →
      String.ofList x ∈ profile.classes)
    (ids : ∀ x ∈ (startingWith c parts rest).names.ids, String.ofList x ∈ profile.ids)
    (tags : ∀ x ∈ (startingWith c parts rest).names.tags, String.ofList x ∈ profile.tags) :
    ∃ allow d, Allow.compile engine [.leading (String.ofList c.chars)] id url = .ok allow ∧
      decompose (startingWith c parts rest).text = .ok d ∧
      (includes ⟨profile, catalog, allow⟩ d = true ↔
        isExempt catalog d = true ∨ c.IsRaw ∨ String.ofList c.chars ∈ profile.classes) := by
  have hname : String.ofList c.chars ≠ "" := by
    intro h
    exact c.ne_nil (by simpa using congrArg String.toList h)
  have hmem : c.chars ∈ (startingWith c parts rest).names.classes :=
    List.mem_append_left _ List.mem_cons_self
  refine ⟨_, _, Allow.compile_leading engine hname id url,
    (startingWith c parts rest).reads_trim.decompose_eq, ?_⟩
  rw [includes_leading_iff (List.mem_map_of_mem hmem) ?_ (List.forall_mem_map.mpr ids)
    (List.forall_mem_map.mpr tags)]
  · have hhit := not_congr (leadingHit_startingWith c parts rest)
    rw [Decidable.not_not] at hhit
    exact or_congr_right (or_congr_left hhit)
  · exact List.forall_mem_map.mpr fun x hx hne => classes x hx fun he => hne (he ▸ rfl)

/-- `.card.open ul#main` -/
def cardText : Canonical :=
  startingWith { chars := ['c', 'a', 'r', 'd'] } [.cls { chars := ['o', 'p', 'e', 'n'] }]
    [(.descendant, ⟨.tag { chars := ['u', 'l'] }, [.id { chars := ['m', 'a', 'i', 'n'] }]⟩)]

/-- The class `card` on an element with another class, and what is in it. -/
theorem includes_startingWith_iff_card :
    let used := (Profile.empty.withClasses ["open"]).withTags ["ul"] |>.withIds ["main"]
    cardText.text = ".card.open ul#main" ∧
      (∀ x ∈ cardText.names.classes, x ≠ "card".toList → String.ofList x ∈ used.classes) ∧
      (∀ x ∈ cardText.names.ids, String.ofList x ∈ used.ids) ∧
      (∀ x ∈ cardText.names.tags, String.ofList x ∈ used.tags) ∧
      ∃ allow d, Allow.compile .unlimited [.leading "card"] "" "" = .ok allow ∧
        decompose cardText.text = .ok d ∧ includes ⟨used, .minimal, allow⟩ d = true := by
  intro used
  have hclasses : ∀ x ∈ cardText.names.classes, x ≠ "card".toList →
      String.ofList x ∈ used.classes := by decide
  have hids : ∀ x ∈ cardText.names.ids, String.ofList x ∈ used.ids := by decide
  have htags : ∀ x ∈ cardText.names.tags, String.ofList x ∈ used.tags := by decide
  obtain ⟨allow, d, hallow, hd, hincludes⟩ := includes_startingWith_iff
    .unlimited { chars := ['c', 'a', 'r', 'd'] } _ _ used .minimal "" "" hclasses hids htags
  have hraw : Label.IsRaw { chars := ['c', 'a', 'r', 'd'] } :=
    Label.isRaw_of_isName (by simp; decide) (by simp)
  exact ⟨by decide, hclasses, hids, htags, allow, d, hallow, hd, hincludes.mpr (.inr (.inl hraw))⟩

/-- `.sm\:flex` -/
def smallFlex : Canonical :=
  startingWith { chars := ['s', 'm', ':', 'f', 'l', 'e', 'x'] } [] []

/-- The entry for `sm:flex` does not keep the selector that is the class alone. -/
theorem not_includes_startingWith_colon :
    smallFlex.text = ".sm\\:flex" ∧
      ∃ allow d, Allow.compile .unlimited [.leading "sm:flex"] "" "" = .ok allow ∧
        decompose smallFlex.text = .ok d ∧
        includes ⟨Profile.empty.withCatalog .minimal, .minimal, allow⟩ d = false := by
  have htext : smallFlex.text = ".sm\\:flex" := by decide
  rw [htext]
  exact ⟨rfl, [⟨.leading, some "sm:flex", none⟩], ⟨".sm\\:flex", ["sm:flex"], [], [], []⟩,
    Allow.compile_leading .unlimited (by decide) "" "", by with_unfolding_all rfl,
    by decide +kernel⟩

end Inclusion

end StylePrune
