import Mathlib.Data.List.Basic
import StylePrune.Proofs.Selector.WrittenReading

/-!
# Escapes in selectors

A class or an id can be spelled in many ways, and stylesheets read all of them as one name.
The passes read the same name unless what an earlier pass took away changes what is behind an
escape: the white space that ends a compound is then taken for the end of an escape by number,
and the name goes on in the next compound.  Where that does not happen, selectors that differ
in spelling only decompose to the same names, and these are the names that stylesheets read.
-/

namespace StylePrune

namespace Selector

open Text

/-! ## Names in the same places -/

section

variable {N M : Type}

def WrittenPart.map (f : N → M) : WrittenPart N → WrittenPart M
  | cls n => cls (f n)
  | id n => id (f n)
  | attr name condition => attr name condition
  | pseudo double name argument => pseudo double name argument

def WrittenCompound.map (f : N → M) (c : WrittenCompound N) : WrittenCompound M :=
  ⟨c.head, c.parts.map (WrittenPart.map f)⟩

/-- The selector with the images of its names in their places. -/
def Written.map (f : N → M) (sel : Written N) : Written M :=
  ⟨sel.first.map f, sel.rest.map fun (j, c) => (j, c.map f)⟩

/-- The names in a compound of names as such. -/
def WrittenCompound.mentioned (c : WrittenCompound (List Char)) : Names where
  classes := c.parts.filterMap WrittenPart.class?
  ids := c.parts.filterMap WrittenPart.id?
  tags := c.head.tag?.toList
  attrs := c.parts.filterMap fun p => p.attr?.map takenAttr

def Written.mentioned (sel : Written (List Char)) : Names where
  classes := sel.compounds.flatMap fun c => c.mentioned.classes
  ids := sel.compounds.flatMap fun c => c.mentioned.ids
  tags := sel.compounds.flatMap fun c => c.mentioned.tags
  attrs := sel.compounds.flatMap fun c => c.mentioned.attrs

theorem WrittenPart.class?_map (f : N → M) (p : WrittenPart N) :
    (p.map f).class? = p.class?.map f := by
  cases p <;> rfl

theorem WrittenPart.id?_map (f : N → M) (p : WrittenPart N) : (p.map f).id? = p.id?.map f := by
  cases p <;> rfl

theorem WrittenPart.attr?_map (f : N → M) (p : WrittenPart N) : (p.map f).attr? = p.attr? := by
  cases p <;> rfl

/-- What a selector mentions depends on its names, not on how they are written. -/
theorem Written.names_eq_mentioned [NameForm N] (sel : Written N) :
    sel.names = (sel.map NameForm.chars).mentioned := by
  have hc : ∀ c : WrittenCompound N, c.names = (c.map NameForm.chars).mentioned := fun c => by
    simp only [WrittenCompound.names, namesOfParts, WrittenCompound.mentioned, WrittenCompound.map,
      List.filterMap_map, Function.comp_def, WrittenPart.class?_map, WrittenPart.id?_map,
      WrittenPart.attr?_map]
  have hcompounds : (sel.map NameForm.chars).compounds =
      sel.compounds.map (WrittenCompound.map NameForm.chars) := by
    simp [compounds, map]
  simp only [names, mentioned, hcompounds, List.flatMap_map, hc]

/-- The tags are the element types of the compounds. -/
theorem Written.names_tags [NameForm N] (sel : Written N) :
    sel.names.tags = sel.compounds.filterMap fun c => c.head.tag? := by
  simp only [names, WrittenCompound.names, List.filterMap_eq_flatMap_toList]

end

/-! ## Where a part ends -/

/-- A character that a part of a selector can end before. -/
def IsEdge (c : Char) : Prop :=
  Css.Lexer.isSpace c = true ∨ c ∈ ['>', '+', '~', '.', '#', '[', ':']

theorem IsEdge.ends {c : Char} (h : IsEdge c) :
    Css.Lexer.isNamePart c = false ∧ c ≠ '\\' ∧
      (isBlank c = true → Css.Lexer.isSpace c = true) := by
  rcases h with h | h
  · have hpart : Css.Lexer.isNamePart c = false ∧ c ≠ '\\' := by
      simp only [Css.Lexer.isSpace, Css.Lexer.isNewline, Bool.or_eq_true, beq_iff_eq] at h
      rcases h with (h | h) | (h | h) | h <;> rw [h] <;> decide
    exact ⟨hpart.1, hpart.2, fun _ => h⟩
  · simp only [List.mem_cons, List.not_mem_nil, or_false] at h
    rcases h with rfl | rfl | rfl | rfl | rfl | rfl | rfl <;> decide

section

variable {N : Type} [NameForm N]

theorem WrittenPart.isEdge (p : WrittenPart N) (s : List Char) :
    ∀ c ∈ (p.print ++ s).head?, IsEdge c := by
  rcases p with n | n | ⟨w, t | t⟩ | ⟨double, w, t | t⟩
  all_goals try cases double
  all_goals
    rintro c ⟨⟩
    exact .inr (by decide)

theorem Joint.isEdge (j : Joint) (s : List Char) : ∀ c ∈ (j.print ++ s).head?, IsEdge c := by
  cases j with
  | descendant first more =>
      rintro c ⟨⟩
      exact .inl first.isSpace
  | signed before sign after =>
      cases before with
      | nil =>
          rintro c ⟨⟩
          cases sign <;> exact .inr (by decide)
      | cons b bs =>
          rintro c ⟨⟩
          exact .inl b.isSpace

theorem isEdge_of_mem_spotsOf {ps : List (WrittenPart N)} {s : List Char}
    (hs : ∀ c ∈ s.head?, IsEdge c) {x : Spot N} (h : x ∈ spotsOf ps s) :
    ∀ c ∈ x.rest.head?, IsEdge c := by
  induction ps with
  | nil => cases h
  | cons p rest ih =>
      rcases List.mem_cons.mp h with rfl | h
      · cases rest with
        | nil => exact hs
        | cons q more =>
            rw [Spot.rest, List.flatMap_cons, List.append_assoc]
            exact q.isEdge _
      · exact ih h

/-- Every part ends before an edge or at the end of the text. -/
theorem Written.isEdge_of_mem_spots {sel : Written N} {x : Spot N} (h : x ∈ sel.spots) :
    ∀ c ∈ x.rest.head?, IsEdge c := by
  obtain ⟨first, rest⟩ := sel
  induction rest generalizing first with
  | nil => exact isEdge_of_mem_spotsOf (by simp) h
  | cons jc rest ih =>
      rcases List.mem_append.mp h with h | h
      · exact isEdge_of_mem_spotsOf (jc.1.isEdge _) h
      · exact ih jc.2 h

end

/-! ## Legal spellings -/

/-- The letter stands for no NUL and is no blank that is written as it is. -/
def Letter.IsOrdinary (l : Letter) : Prop :=
  l.IsVisible ∧ l.isWrittenBlank = false

instance (l : Letter) : Decidable l.IsOrdinary :=
  inferInstanceAs (Decidable (_ ∧ _))

theorem Letter.not_isBlank_of_mem_head?_print {l : Letter} (h : l.isWrittenBlank = false) :
    ∀ c ∈ l.print.head?, isBlank c = false := by
  cases l with
  | plain =>
      rintro c ⟨⟩
      exact h
  | escaped | coded =>
      rintro c ⟨⟩
      decide

/-- Where letters end as stylesheets have it, they end for the passes too. -/
theorem EndBefore.closesBefore {ls : List Letter} {s : List Char}
    (h : EndBefore Letter.EndsBefore ls s) (hls : ∀ l ∈ ls, l.IsOrdinary)
    (hs : ∀ c ∈ s.head?, isBlank c = true → Css.Lexer.isSpace c = true) :
    EndBefore Letter.ClosesBefore ls s := by
  induction ls with
  | nil => trivial
  | cons l rest ih =>
      refine ⟨fun hopen c hc => ?_, ih h.2 fun m hm => hls m (List.mem_cons_of_mem l hm)⟩
      have hblank : isBlank c = true → Css.Lexer.isSpace c = true := by
        cases rest with
        | nil => exact hs c hc
        | cons m more =>
            rw [printLetters_cons, List.append_assoc, m.head?_print_append] at hc
            have hm := Letter.not_isBlank_of_mem_head?_print (hls m (by simp)).2 c hc
            exact fun hb => by rw [hm] at hb; cases hb
      have hends := h.1
      cases l with
      | plain | escaped => cases hopen
      | coded digits hd gap =>
          cases gap with
          | some => cases hopen
          | none =>
              obtain ⟨hhex, hspace⟩ := hends c hc
              refine ⟨hhex, ?_⟩
              rw [← Bool.not_eq_true]
              exact fun hb => by rw [hblank hb] at hspace; cases hspace

/-- Every escape of the selector ends where it should. -/
def Written.IsLegal (sel : Written Spelling) : Prop :=
  ∀ x ∈ sel.spots, ∀ n ∈ x.part.name?, n.IsLegal x.rest

instance (sel : Written Spelling) : Decidable sel.IsLegal :=
  inferInstanceAs (Decidable (∀ x ∈ sel.spots, ∀ n ∈ x.part.name?, n.IsLegal x.rest))

/-- The name that stylesheets read at the start of a text. -/
def cssName (s : List Char) : String :=
  (Css.Lexer.name s).1

def Written.cssClasses (sel : Written Spelling) : List String :=
  sel.spots.filterMap fun x => x.part.class?.map fun n => cssName (n.print ++ x.rest)

def Written.cssIds (sel : Written Spelling) : List String :=
  sel.spots.filterMap fun x => x.part.id?.map fun n => cssName (n.print ++ x.rest)

namespace Written

theorem IsLegal.cssName_eq {sel : Written Spelling} (h : sel.IsLegal) {x : Spot Spelling}
    (hx : x ∈ sel.spots) {n : Spelling} (hn : n ∈ x.part.name?) :
    cssName (n.print ++ x.rest) = String.ofList n.name := by
  have hend := fun c hc => (isEdge_of_mem_spots hx c hc).ends
  rw [cssName, (h x hx n hn).name_append fun c hc => ⟨(hend c hc).1, (hend c hc).2.1⟩]

/-- Of ordinary letters nothing is asked but that no blank is missed behind an open name. -/
theorem IsLegal.isSettled {sel : Written Spelling} (h : sel.IsLegal)
    (tame : ∀ p ∈ sel.parts, ∀ t ∈ p.condition?, IsTame t.value)
    (ordinary : ∀ p ∈ sel.parts, ∀ n ∈ p.name?, ∀ l ∈ n.letters, l.IsOrdinary)
    (openClass : ∀ x ∈ sel.spots, ∀ n ∈ x.part.class?, n.isOpen = true →
      MeetsNoBlank (fun p => p.name?.isSome) x.behind x.after ∨ SplitsBehindBlank x.after)
    (openId : ∀ x ∈ sel.spots, ∀ n ∈ x.part.id?, n.isOpen = true →
      MeetsNoBlank (fun p => p.id?.isSome) x.behind x.after ∨
        ClosesClasses x.behind ∧ SplitsBehindBlank x.after) : sel.IsSettled := by
  intro x hx
  have hpart := part_mem_of_mem_spots hx
  refine ⟨tame _ hpart, fun n hn => ?_, fun n hn _ => ?_, openClass x hx, openId x hx⟩
  · have hletters := ordinary _ hpart n hn
    exact ⟨(h x hx n hn).closesBefore hletters fun c hc => (isEdge_of_mem_spots hx c hc).ends.2.2,
      fun l hl => (hletters l hl).1⟩
  · exact (ordinary _ hpart n hn n.last (by simp [Spelling.letters])).2

/-- The names of some kind in a legal selector are read as they are meant. -/
theorem IsLegal.filterMap_cssName {sel : Written Spelling} (h : sel.IsLegal)
    {name? : WrittenPart Spelling → Option Spelling} (hname : ∀ p, ∀ n ∈ name? p, n ∈ p.name?) :
    (sel.spots.filterMap fun x => (name? x.part).map fun n => cssName (n.print ++ x.rest)) =
      (sel.parts.filterMap fun p => (name? p).map NameForm.chars).map String.ofList := by
  rw [List.map_filterMap, ← sel.map_part_spots, List.filterMap_map]
  refine List.filterMap_congr fun x hx => ?_
  rw [Function.comp_apply, Option.map_map]
  exact Option.map_congr fun n hn => h.cssName_eq hx (hname x.part n hn)

theorem IsLegal.cssClasses_eq {sel : Written Spelling} (h : sel.IsLegal) :
    sel.cssClasses = sel.names.classes.map String.ofList := by
  rw [sel.names_classes]
  refine h.filterMap_cssName fun p n hn => ?_
  cases p <;> first | exact hn | cases hn

theorem IsLegal.cssIds_eq {sel : Written Spelling} (h : sel.IsLegal) :
    sel.cssIds = sel.names.ids.map String.ofList := by
  rw [sel.names_ids]
  refine h.filterMap_cssName fun p n hn => ?_
  cases p <;> first | exact hn | cases hn

end Written

/--
Two legal spellings of one selector decompose to the same names, if no part of them is read in
another way because of what is written behind it; the classes and ids are the names that
stylesheets read in the text.
-/
theorem decompose_spellings (sel other : Written Spelling)
    (same : sel.map Spelling.name = other.map Spelling.name) (hsel : sel.IsLegal)
    (hsettled : sel.IsSettled) (hother : other.IsSettled) :
    ∃ d e, decompose sel.text = .ok d ∧ decompose other.text = .ok e ∧
      d.classes = e.classes ∧ d.ids = e.ids ∧ d.tags = e.tags ∧ d.attrs = e.attrs ∧
      d.classes = sel.cssClasses ∧ d.ids = sel.cssIds ∧
      d.tags = sel.compounds.filterMap fun c => c.head.tag?.map String.ofList := by
  have hnames : sel.names = other.names := by
    rw [sel.names_eq_mentioned, other.names_eq_mentioned]
    exact congrArg Written.mentioned same
  have htags : sel.names.tags.map String.ofList =
      sel.compounds.filterMap fun c => c.head.tag?.map String.ofList := by
    rw [sel.names_tags, List.map_filterMap]
  refine ⟨_, _, (Written.reads_trim hsettled).decompose_eq,
    (Written.reads_trim hother).decompose_eq, ?_, ?_, ?_, ?_, hsel.cssClasses_eq.symm,
    hsel.cssIds_eq.symm, htags⟩
  all_goals simp only [Descriptor.ofNames, hnames]

/-- The class `x1` with its digit as an escape by number that only the next character ends. -/
def openSpelling : Spelling :=
  ⟨[.plain 'x'], .coded ['3', '1'] ⟨by decide, by decide, by simp; decide⟩ none⟩

def plainSpelling : Spelling :=
  ⟨[.plain 'x'], .plain '1'⟩

/-- A class with a pseudo-class, and an element in it. -/
def hovered (n : Spelling) (j : Joint) : Written Spelling :=
  ⟨⟨.nothing, [.cls n, .pseudo false { chars := ['h', 'o', 'v', 'e', 'r'] } none]⟩,
    [(j, ⟨.tag { chars := ['b'] }, []⟩)]⟩

/-- In front of a sign the open escape takes no more than white space. -/
theorem decompose_spellings_child :
    let j : Joint := .signed [⟨' ', rfl⟩] .child [⟨' ', rfl⟩]
    (hovered openSpelling j).text = ".x\\31:hover > b" ∧
      (hovered openSpelling j).map Spelling.name = (hovered plainSpelling j).map Spelling.name ∧
      (hovered openSpelling j).IsLegal ∧ (hovered openSpelling j).IsSettled ∧
      (hovered plainSpelling j).IsSettled ∧
      ∃ d, decompose (hovered openSpelling j).text = .ok d ∧ d.classes = ["x1"] ∧
        d.tags = ["b"] := by
  intro j
  have htame : ∀ n, ∀ p ∈ (hovered n j).parts, ∀ t ∈ p.condition?, IsTame t.value := by
    intro n p hp t ht
    simp only [hovered, Written.parts, Written.compounds] at hp
    simp at hp
    rcases hp with rfl | rfl <;> cases ht
  have hlegal : (hovered openSpelling j).IsLegal := by decide
  have hsettled : (hovered openSpelling j).IsSettled :=
    hlegal.isSettled (htame _) (by decide) (by decide) (by decide)
  have hplain : (hovered plainSpelling j).IsSettled :=
    Written.IsLegal.isSettled (by decide) (htame _) (by decide) (by decide) (by decide)
  obtain ⟨d, -, hd, -, -, -, -, -, hclasses, -, htags⟩ :=
    decompose_spellings (hovered openSpelling j) (hovered plainSpelling j) rfl hlegal hsettled
      hplain
  exact ⟨by decide, rfl, hlegal, hsettled, hplain, d, hd, hclasses.trans (by decide),
    htags.trans (by decide)⟩

/-- In front of a tag it takes the white space between the compounds, and the name goes on. -/
theorem decompose_depends_on_spelling :
    let j : Joint := .descendant ⟨' ', rfl⟩ []
    (hovered openSpelling j).text = ".x\\31:hover b" ∧
      (hovered plainSpelling j).text = ".x1:hover b" ∧
      (hovered openSpelling j).map Spelling.name = (hovered plainSpelling j).map Spelling.name ∧
      (hovered openSpelling j).IsLegal ∧ (hovered plainSpelling j).IsLegal ∧
      (hovered openSpelling j).cssClasses = ["x1"] ∧
      ∃ d e, decompose (hovered openSpelling j).text = .ok d ∧
        decompose (hovered plainSpelling j).text = .ok e ∧
        d.classes = ["x1b"] ∧ d.tags = [] ∧ e.classes = ["x1"] ∧ e.tags = ["b"] := by
  intro j
  have hopen : (hovered openSpelling j).text = ".x\\31:hover b" := by decide
  have hplain : (hovered plainSpelling j).text = ".x1:hover b" := by decide
  refine ⟨hopen, hplain, rfl, by decide, by decide, by decide, ?_⟩
  rw [hopen, hplain]
  exact ⟨⟨_, ["x1b"], [], [], []⟩, ⟨_, ["x1"], [], ["b"], []⟩, by with_unfolding_all rfl,
    by with_unfolding_all rfl, rfl, rfl, rfl, rfl⟩

end Selector

end StylePrune
