import StylePrune.Proofs.Selector.WrittenReading

/-!
# Values of attribute selectors

Of an attribute selector the passes are to keep the name only.  They do where the value opens
no round bracket for the first pass that it does not close: whatever else the value has, the
selector decomposes to the same names as with empty values.  A bracket that stays open is
searched in the text behind the value.  And the bar of the operator `|=` is taken for a
character of the name that it stands behind.
-/

namespace StylePrune

namespace Selector

open Text

section

variable {N : Type}

def Written.conditions (sel : Written N) : List Condition :=
  sel.parts.filterMap WrittenPart.condition?

def Written.attributes (sel : Written N) : List (Word × Option Condition) :=
  sel.parts.filterMap WrittenPart.attr?

/-! ## Empty values -/

def Condition.emptied (t : Condition) : Condition :=
  { t with value := [] }

def WrittenPart.emptied : WrittenPart N → WrittenPart N
  | attr name condition => attr name (condition.map Condition.emptied)
  | p => p

def WrittenCompound.emptied (c : WrittenCompound N) : WrittenCompound N :=
  { c with parts := c.parts.map WrittenPart.emptied }

/-- The selector with an empty text for every value. -/
def Written.emptied (sel : Written N) : Written N :=
  ⟨sel.first.emptied, sel.rest.map fun (j, c) => (j, c.emptied)⟩

theorem takenAttr_emptied (name : Word) (condition : Option Condition) :
    takenAttr (name, condition.map Condition.emptied) = takenAttr (name, condition) := by
  cases condition <;> rfl

theorem Written.compounds_emptied (sel : Written N) :
    sel.emptied.compounds = sel.compounds.map WrittenCompound.emptied := by
  simp [emptied, compounds]

theorem Written.parts_emptied (sel : Written N) :
    sel.emptied.parts = sel.parts.map WrittenPart.emptied := by
  rw [parts, compounds_emptied, List.flatMap_map, parts, List.map_flatMap]
  rfl

theorem Written.value_of_mem_conditions_emptied {sel : Written N} {t : Condition}
    (h : t ∈ sel.emptied.conditions) : t.value = [] := by
  rw [conditions, parts_emptied] at h
  obtain ⟨q, hq, ht⟩ := List.mem_filterMap.mp h
  obtain ⟨p, -, rfl⟩ := List.mem_map.mp hq
  cases p with
  | attr name condition =>
      obtain ⟨u, -, rfl⟩ := Option.map_eq_some_iff.mp ht
      rfl
  | cls | id | pseudo => cases ht

variable [NameForm N]

/-- Values are no part of what a part mentions. -/
theorem namesOfParts_emptied (ps : List (WrittenPart N)) :
    namesOfParts (ps.map WrittenPart.emptied) = namesOfParts ps := by
  induction ps with
  | nil => rfl
  | cons p rest ih =>
      have hp : p.emptied.names = p.names := by
        cases p with
        | attr name condition => simp [WrittenPart.emptied, WrittenPart.names, WrittenPart.attr?,
            WrittenPart.class?, WrittenPart.id?, takenAttr_emptied]
        | cls | id | pseudo => rfl
      rw [List.map_cons, namesOfParts_cons, namesOfParts_cons, hp, ih]

theorem Written.names_emptied (sel : Written N) : sel.emptied.names = sel.names := by
  have hc : ∀ c : WrittenCompound N, c.emptied.names = c.names := fun c => by
    rw [WrittenCompound.names, WrittenCompound.names, WrittenCompound.emptied,
      namesOfParts_emptied]
  simp only [names, compounds_emptied, List.flatMap_map, hc]

theorem Written.names_attrs_eq_map (sel : Written N) :
    sel.names.attrs = sel.attributes.map takenAttr := by
  rw [sel.names_attrs, attributes, List.map_filterMap]

end

/-! ## Names as stylesheets print them -/

/-- Of names as stylesheets print them nothing else is asked than that the values are tame. -/
theorem Written.isSettled_of_isTame {sel : Written Label}
    (h : ∀ t ∈ sel.conditions, IsTame t.value) : sel.IsSettled := by
  intro x hx
  refine ⟨fun t ht => h t ?_, fun _ _ => trivial, fun _ _ _ => rfl, ?_, ?_⟩
  · exact List.mem_filterMap.mpr ⟨x.part, part_mem_of_mem_spots hx, ht⟩
  · rintro n - ⟨⟩
  · rintro n - ⟨⟩

theorem Written.decompose_text_of_isTame {sel : Written Label}
    (h : ∀ t ∈ sel.conditions, IsTame t.value) :
    decompose sel.text = .ok (.ofNames sel.text sel.names) :=
  (reads_trim (isSettled_of_isTame h)).decompose_eq

/--
A selector whose values are tame decomposes, and to the same names as with empty values: of an
attribute selector the name is taken, with the bar of an operator directly behind it.
-/
theorem decompose_eq_emptied (sel : Written Label) (h : ∀ t ∈ sel.conditions, IsTame t.value) :
    ∃ d e, decompose sel.text = .ok d ∧ decompose sel.emptied.text = .ok e ∧
      d.attrs = sel.attributes.map (fun a => String.ofList (takenAttr a)) ∧
      d.classes = sel.names.classes.map String.ofList ∧ d.ids = sel.names.ids.map String.ofList ∧
      d.tags = sel.names.tags.map String.ofList ∧
      d.classes = e.classes ∧ d.ids = e.ids ∧ d.tags = e.tags ∧ d.attrs = e.attrs := by
  have hempty : ∀ t ∈ sel.emptied.conditions, IsTame t.value := fun t ht =>
    isTame_of_not_mem (by simp [Written.value_of_mem_conditions_emptied ht])
  refine ⟨_, _, Written.decompose_text_of_isTame h, Written.decompose_text_of_isTame hempty, ?_,
    rfl, rfl, rfl, ?_⟩
  · simp only [Descriptor.ofNames, sel.names_attrs_eq_map, List.map_map]
    rfl
  · simp only [Descriptor.ofNames, sel.names_emptied, and_self]

/-! ## Brackets that stay open -/

def Written.alone (w : Word) (t : Condition) : Written Label :=
  ⟨⟨.nothing, [.attr w (some t)]⟩, []⟩

theorem Written.trim_alone (w : Word) (t : Condition) :
    trim (alone w t).print =
      '[' :: (w.chars ++ t.front ++ ['"']) ++ (t.value.flatMap quotedChar ++ ['"', ']']) := by
  have hprint : (alone w t).print =
      '[' :: (w.chars ++ t.front ++ ['"']) ++ (t.value.flatMap quotedChar ++ ['"', ']']) := by
    simp [alone, print, WrittenCompound.print, WrittenPart.print, Head.print, Condition.print,
      quoted]
  have hend := trimEnd_snoc (c := ']') (by decide)
    ('[' :: (w.chars ++ t.front ++ ['"']) ++ (t.value.flatMap quotedChar ++ ['"']))
  rw [hprint, trim_eq_trimEnd, List.cons_append, dropBlanks_cons_of_not_isBlank (by decide)]
  simpa using hend

/-- Alone, an attribute selector decomposes exactly if its value is tame. -/
theorem decompose_alone_iff (w : Word) (t : Condition) :
    (∃ d, decompose (Written.alone w t).text = .ok d) ↔ IsTame t.value := by
  constructor
  · intro ⟨d, hd⟩
    cases hvalue : withoutPseudo (t.value.flatMap quotedChar) with
    | ok left => exact ⟨left, hvalue⟩
    | error fault =>
        obtain ⟨f, hf⟩ := exists_error_of_withoutPseudo (avoids_flatMap_quotedChar _) hvalue
        have hfront : Avoids ':' ('[' :: (w.chars ++ t.front ++ ['"'])) :=
          .cons (by decide) (by decide) (t.avoids_front w)
        have hnames : namesOf (trim (Written.alone w t).print) = .error f := by
          rw [Written.trim_alone, namesOf, withoutPseudo_append hfront, hf]
          rfl
        rw [decompose, Written.text, String.toList_ofList, hnames] at hd
        cases hd
  · intro ht
    have htame : ∀ u ∈ (Written.alone w t).conditions, IsTame u.value := by
      simpa [Written.alone, Written.conditions, Written.parts, Written.compounds,
        WrittenPart.condition?] using ht
    exact ⟨_, Written.decompose_text_of_isTame htame⟩

/-! ## Examples of values -/

def WrittenPart.comparing (name : Word) (comparator : Comparator) (value : String) :
    WrittenPart Label :=
  .attr name (some { comparator, value := value.toList })

/-- `a.used[href*="x:not(.y) [z] '#w"][lang|="en"]` -/
def linked : Written Label :=
  ⟨⟨.tag { chars := ['a'] }, [.cls { chars := ['u', 's', 'e', 'd'] },
    .comparing { chars := ['h', 'r', 'e', 'f'] } .contains "x:not(.y) [z] '#w",
    .comparing { chars := ['l', 'a', 'n', 'g'] } .hyphened "en"]⟩, []⟩

/-- `[lang|="en"]` -/
def barred : Written Label :=
  ⟨⟨.nothing, [.comparing { chars := ['l', 'a', 'n', 'g'] } .hyphened "en"]⟩, []⟩

/-- `.used[href="a:b("]` -/
def unclosed : Written Label :=
  ⟨⟨.nothing, [.cls { chars := ['u', 's', 'e', 'd'] },
    .comparing { chars := ['h', 'r', 'e', 'f'] } .equals "a:b("]⟩, []⟩

/-- `[x=":b("].used[y=")"]` -/
def closedLater : Written Label :=
  ⟨⟨.nothing, [.comparing { chars := ['x'] } .equals ":b(", .cls { chars := ['u', 's', 'e', 'd'] },
    .comparing { chars := ['y'] } .equals ")"]⟩, []⟩

/-- A value with brackets, quotes and what looks like a pseudo-class, all of it closed. -/
theorem decompose_eq_emptied_linked :
    linked.text = "a.used[href*=\"x:not(.y) [z] '#w\"][lang|=\"en\"]" ∧
      (∀ t ∈ linked.conditions, IsTame t.value) ∧
      ∃ d, decompose linked.text = .ok d ∧ d.attrs = ["href", "lang|"] ∧ d.classes = ["used"] ∧
        d.ids = [] ∧ d.tags = ["a"] := by
  have htame : ∀ t ∈ linked.conditions, IsTame t.value := by
    intro t ht
    have hvalue : t.value = "x:not(.y) [z] '#w".toList ∨ t.value = "en".toList := by
      revert t
      decide
    rcases hvalue with hvalue | hvalue <;> rw [hvalue]
    · exact ⟨"x [z] '#w".toList, by with_unfolding_all rfl⟩
    · exact isTame_of_not_mem (by decide)
  obtain ⟨d, -, hd, -, hattrs, hclasses, hids, htags, -⟩ := decompose_eq_emptied linked htame
  refine ⟨by decide, htame, d, hd, ?_, ?_, ?_, ?_⟩
  · rw [hattrs]; decide
  · rw [hclasses]; decide
  · rw [hids]; decide
  · rw [htags]; decide

/--
The bar of an operator is taken for a character of the name; a bracket that a value opens is
searched behind the value, and the selector does not decompose or loses what stands before the
bracket that is found.
-/
theorem decompose_reads_values :
    (∃ d, decompose barred.text = .ok d ∧ d.attrs = ["lang|"]) ∧
      (∃ e, decompose unclosed.text = .error e) ∧
      ∃ d e, decompose closedLater.text = .ok d ∧ decompose closedLater.emptied.text = .ok e ∧
        d.classes = [] ∧ e.classes = ["used"] ∧ d.attrs = ["x"] := by
  have hbarred : barred.text = "[lang|=\"en\"]" := by decide
  have hunclosed : unclosed.text = ".used[href=\"a:b(\"]" := by decide
  have hlater : closedLater.text = "[x=\":b(\"].used[y=\")\"]" := by decide
  have hemptied : closedLater.emptied.text = "[x=\"\"].used[y=\"\"]" := by decide
  rw [hbarred, hunclosed, hlater, hemptied]
  refine ⟨⟨⟨_, [], [], [], ["lang|"]⟩, by with_unfolding_all rfl, rfl⟩,
    ⟨⟨_, .unbalancedParenthesis⟩, by with_unfolding_all rfl⟩,
    ⟨_, [], [], [], ["x"]⟩, ⟨_, ["used"], [], [], ["x", "y"]⟩, by with_unfolding_all rfl,
    by with_unfolding_all rfl, rfl, rfl, rfl⟩

end Selector

end StylePrune
