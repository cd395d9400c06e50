import StylePrune.Proofs.Selector.Positions

/-!
# Well-formed descriptors

Whatever text a descriptor is made of, it has no empty names, its tags consist of name
characters, and its attribute names of these and the two characters that a namespace is written
with.  On the way to it every text can be read by position: no pass reads or cuts outside it,
counts brackets below zero or reads an escape that is too large, and no loop takes more rounds
than the text has characters, and one more to see its end.
-/

namespace StylePrune

namespace Selector

open Text

/-! ## What the passes take -/

theorem ne_nil_of_mem_takePrefixed {sigil : Char} {s name : List Char}
    (h : name ∈ (takePrefixed sigil s).1) : name ≠ [] := by
  fun_induction takePrefixed sigil s with
  | case1 | case2 => cases h
  | case3 | case4 | case6 =>
      rename_i ih
      exact ih h
  | case5 rest hname =>
      rename_i ih
      obtain rfl | h := List.mem_cons.mp h
      · exact hname
      · exact ih h

/-- A text that a name can be: not empty, with the characters that the name may have. -/
structure IsRun (p : Char → Bool) (name : List Char) : Prop where
  ne_nil : name ≠ []
  all : ∀ c ∈ name, p c = true

/-- A run of characters that ends is a tag, unless it is empty. -/
theorem isRun_reverse {p : Char → Bool} {current : List Char} (hne : ¬current.isEmpty = true)
    (h : ∀ c ∈ current, p c = true) : IsRun p current.reverse where
  ne_nil hnil := hne (by rw [List.reverse_eq_nil_iff.mp hnil, List.isEmpty_nil])
  all c hc := h c (List.mem_reverse.mp hc)

theorem isRun_of_mem_tagRuns {current s name : List Char}
    (hcurrent : ∀ c ∈ current, isNameChar c = true) (h : name ∈ tagRuns current s) :
    IsRun isNameChar name := by
  fun_induction tagRuns current s with
  | case1 | case3 => cases h
  | case2 current hne | case4 current hne =>
      obtain rfl := List.mem_singleton.mp h
      exact isRun_reverse hne hcurrent
  | case5 current c rest ih => exact ih hcurrent h
  | case6 current c rest _ _ hc ih =>
      refine ih (fun d hd => ?_) h
      obtain rfl | hd := List.mem_cons.mp hd
      · exact hc
      · exact hcurrent d hd
  | case7 current c rest _ _ _ _ ih => exact ih (by simp) h
  | case8 current c rest _ _ _ hne ih =>
      obtain rfl | h := List.mem_cons.mp h
      · exact isRun_reverse hne hcurrent
      · exact ih (by simp) h

theorem isRun_attrName {inside : List Char} (h : attrName inside ≠ []) :
    IsRun isAttrNameChar (attrName inside) :=
  ⟨h, List.all_eq_true.mp List.all_takeWhile⟩

theorem isRun_of_mem_takeAttributes {s left name : List Char} {names : List (List Char)}
    (hs : takeAttributes s = .ok (names, left)) (h : name ∈ names) :
    IsRun isAttrNameChar name := by
  fun_induction takeAttributes s generalizing names left with
  | case1 | case2 => cases hs; cases h
  | case3 c rest ih | case7 c rest _ _ _ ih =>
      obtain ⟨r, hrest, hr⟩ := exists_of_bind_eq_ok hs
      cases hr
      exact ih hrest h
  | case4 => cases hs
  | case5 => cases hs
  | case6 rest inside after hclose hname _ _ ih =>
      obtain ⟨r, hafter, hr⟩ := exists_of_bind_eq_ok hs
      cases hr
      obtain rfl | h := List.mem_cons.mp h
      · exact isRun_attrName hname
      · exact ih hafter h

/-! ## Descriptors -/

/-- No name is empty, and tags and attribute names have no other characters than they may. -/
structure Descriptor.IsWellFormed (d : Descriptor) : Prop where
  classes : ∀ c ∈ d.classes, c ≠ ""
  ids : ∀ id ∈ d.ids, id ≠ ""
  tags : ∀ t ∈ d.tags, t ≠ "" ∧ ∀ c ∈ t.toList, isNameChar c = true
  attrs : ∀ a ∈ d.attrs, a ≠ "" ∧ ∀ c ∈ a.toList, isNameChar c = true ∨ c = ':' ∨ c = '|'

theorem ofList_ne_empty {name : List Char} (h : name ≠ []) : String.ofList name ≠ "" :=
  fun hempty => h (String.ofList_eq_empty_iff.mp hempty)

theorem ne_empty_of_takePrefixed (sigil : Char) (s : List Char) :
    ∀ name ∈ (takePrefixed sigil s).1.map String.ofList, name ≠ "" :=
  List.forall_mem_map.mpr fun _ hn => ofList_ne_empty (ne_nil_of_mem_takePrefixed hn)

/--
The passes by position, alone and after each other, end on a text as the passes on texts do, with
any limit on the rounds that is above the length of the text.
-/
def Cursor.EndsOn (s : List Char) : Prop :=
  ∀ limit, s.length < limit →
    Cursor.withoutPseudo limit s.toArray limit [] 0 = pure (Selector.withoutPseudo s) ∧
    Cursor.takeAttributes limit s.toArray limit [] [] 0 = pure (Selector.takeAttributes s) ∧
    (∀ sigil, Cursor.takePrefixed limit s.toArray sigil limit [] [] 0 =
      pure (Selector.takePrefixed sigil s)) ∧
    Cursor.tagRuns s.toArray limit [] [] 0 = pure (Selector.tagRuns [] s) ∧
    Cursor.namesOf limit s = pure (Selector.namesOf s)

theorem Cursor.endsOn (s : List Char) : EndsOn s := by
  intro limit hs
  refine ⟨?withoutPseudo, ?takeAttributes, fun sigil => ?takePrefixed, ?tagRuns, namesOf_eq hs⟩
  case withoutPseudo =>
    rw [withoutPseudo_eq hs (suffix_toArray s) hs]
    cases Selector.withoutPseudo s <;> rfl
  case takeAttributes =>
    rw [takeAttributes_eq hs (suffix_toArray s) hs]
    cases Selector.takeAttributes s <;> rfl
  case takePrefixed => exact takePrefixed_eq hs (suffix_toArray s) hs sigil [] []
  case tagRuns => exact tagRuns_eq (suffix_toArray s) hs [] []

theorem isWellFormed_of_namesOf {s : List Char} {names : Names} (h : namesOf s = .ok names)
    (selector : String) :
    Descriptor.IsWellFormed {
      selector
      classes := names.classes.map String.ofList
      ids := names.ids.map String.ofList
      tags := names.tags.map String.ofList
      attrs := names.attrs.map String.ofList } := by
  obtain ⟨plain, -, h⟩ := exists_of_bind_eq_ok h
  obtain ⟨r, hattrs, h⟩ := exists_of_bind_eq_ok h
  obtain rfl := Except.ok.inj h
  refine ⟨ne_empty_of_takePrefixed _ _, ne_empty_of_takePrefixed _ _, ?tags, ?attrs⟩
  case tags =>
    refine List.forall_mem_map.mpr fun n hn => ?_
    obtain ⟨hne, hall⟩ := isRun_of_mem_tagRuns (by simp) hn
    exact ⟨ofList_ne_empty hne, by rwa [String.toList_ofList]⟩
  case attrs =>
    refine List.forall_mem_map.mpr fun n hn => ?_
    obtain ⟨hne, hall⟩ := isRun_of_mem_takeAttributes hattrs hn
    refine ⟨ofList_ne_empty hne, fun c hc => ?_⟩
    rw [String.toList_ofList] at hc
    simpa [isAttrNameChar, or_assoc] using hall c hc

/--
Every descriptor that is made is well formed and keeps the trimmed text, and every text can be
read by position.
-/
theorem isWellFormed_of_decompose :
    (∀ s d, decompose s = .ok d → d.IsWellFormed ∧ d.selector = trimString s) ∧
      ∀ s, Cursor.EndsOn s := by
  refine ⟨fun s d h => ?_, Cursor.endsOn⟩
  rw [decompose] at h
  cases hnames : namesOf (trim s.toList) with
  | error fault => rw [hnames] at h; cases h
  | ok names =>
      rw [hnames] at h
      obtain rfl := Except.ok.inj h
      exact ⟨isWellFormed_of_namesOf hnames _, rfl⟩

/--
An escape continues a tag but is no part of it, and the bar of a namespace ends one.  A limit of
three rounds is enough for two characters.
-/
theorem isWellFormed_of_decompose_escapes :
    decompose " v|a\\.b.\\31 [ns|x=\"]\"]#é:not(.y) " =
        .ok ⟨"v|a\\.b.\\31 [ns|x=\"]\"]#é:not(.y)", ["1"], ["é"], ["v", "ab"], ["ns|x"]⟩ ∧
      Descriptor.IsWellFormed
        ⟨"v|a\\.b.\\31 [ns|x=\"]\"]#é:not(.y)", ["1"], ["é"], ["v", "ab"], ["ns|x"]⟩ ∧
      Cursor.namesOf 3 ['.', '\\'] = pure (namesOf ['.', '\\']) := by
  have h : decompose " v|a\\.b.\\31 [ns|x=\"]\"]#é:not(.y) " =
      .ok ⟨"v|a\\.b.\\31 [ns|x=\"]\"]#é:not(.y)", ["1"], ["é"], ["v", "ab"], ["ns|x"]⟩ := by
    with_unfolding_all rfl
  have hread := isWellFormed_of_decompose.2 ['.', '\\'] 3 (by decide)
  exact ⟨h, (isWellFormed_of_decompose.1 _ _ h).1, hread.2.2.2.2⟩

end Selector

end StylePrune
