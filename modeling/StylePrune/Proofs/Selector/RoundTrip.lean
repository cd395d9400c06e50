import StylePrune.Proofs.Selector.Part

/-!
# Decomposing what was printed

The text of a canonical selector decomposes to the names that the selector mentions, in the
order of its text.
-/

namespace StylePrune

namespace Selector

open Text

/-! ## One part -/

theorem isApart_colons (double : Bool) (s : List Char) : IsApart (colons double ++ s) := by
  cases double <;> exact isApart_cons (by decide) _

/-- The characters of a name may stand between square brackets. -/
theorem Word.inside (w : Word) {c : Char} (hc : c ∈ w.chars) :
    c ≠ '\\' ∧ isQuote c = false ∧ c ≠ '[' ∧ c ≠ ']' := by
  have hne : ∀ x, isNameChar x = false → c ≠ x := fun x => ne_of_isNameChar (w.isName c hc)
  refine ⟨hne _ (by decide), ?_, hne _ (by decide), hne _ (by decide)⟩
  simp [isQuote, hne '"' (by decide), hne '\'' (by decide)]

/-- What the first pass leaves of the inside of an attribute selector. -/
theorem exists_plain_comparison (w : Word) (comparison : Comparison) (s : List Char) :
    ∃ plain, withoutPseudo (w.chars ++ comparison.print ++ ']' :: s) =
        (withoutPseudo s).map (plain ++ ']' :: ·) ∧
      Balanced '[' ']' plain ∧ attrName plain = w.chars := by
  obtain ⟨v, hv⟩ := withoutPseudo_quoted comparison.noParenthesis (']' :: s)
  have hfront : Avoids ':' (w.chars ++ comparison.front ++ ['"']) := by
    refine ((w.avoids (by decide)).append (.of_forall fun c hc => ?_)).append
      (.cons (by decide) (by decide) .nil)
    rcases comparison.isSign_of_mem_front hc with rfl | rfl | rfl | rfl | rfl | rfl <;> decide
  refine ⟨w.chars ++ comparison.front ++ quoted v, ?_, ?_, ?_⟩
  · have he : w.chars ++ comparison.print ++ ']' :: s = w.chars ++ comparison.front ++ ['"'] ++
        (comparison.value.flatMap quotedChar ++ '"' :: ']' :: s) := by
      simp [Comparison.print, quoted]
    rw [he, withoutPseudo_append hfront, hv, withoutPseudo_cons (by decide) (by simp)]
    cases withoutPseudo s <;> simp [Except.map, quoted]
  · refine .of_forall (fun c hc => ?_)
      (.quoted rfl (avoids_flatMap_quotedChar v) .nil)
    rcases List.mem_append.mp hc with hc | hc
    · exact w.inside hc
    · rcases comparison.isSign_of_mem_front hc with rfl | rfl | rfl | rfl | rfl | rfl <;> decide
  · rw [List.append_assoc]
    refine w.attrName_append fun c hc => ?_
    obtain ⟨d, rest, hd⟩ := List.exists_cons_of_ne_nil comparison.front_ne_nil
    obtain rfl : d = c := by simpa [hd] using hc
    exact comparison.isSign_of_mem_front (by simp [hd])

theorem exists_plain_word (w : Word) (s : List Char) :
    ∃ plain, withoutPseudo (w.chars ++ ']' :: s) = (withoutPseudo s).map (plain ++ ']' :: ·) ∧
      Balanced '[' ']' plain ∧ attrName plain = w.chars := by
  refine ⟨w.chars, ?_, ?_, ?_⟩
  · rw [withoutPseudo_append (w.avoids (by decide)), withoutPseudo_cons (by decide) (by simp)]
    cases withoutPseudo s <;> rfl
  · rw [← List.append_nil w.chars]
    exact .of_forall (fun c hc => w.inside hc) .nil
  · simpa using w.attrName_append (s := []) (by simp)

/-- A part of a compound in front of a text. -/
theorem ReadsApart.part (p : Part) {s : List Char} {names : Names} (h : ReadsApart s names) :
    ReadsApart (p.print ++ s) ((Names.ofPart p).append names) := by
  obtain ⟨t, rfl, hp, ha⟩ := h
  cases p with
  | cls name =>
      have hs := name.spells
      refine ⟨_, rfl, hp.cls (hs.avoids rfl rfl) (hs.avoids rfl rfl)
        (hs.readName_append_of_isApart ha.bare) name.ne_nil, ?_⟩
      exact ⟨isApart_cons (by decide) _, isApart_cons (by decide) _, ha.unclassed, ha.left⟩
  | id name =>
      have hs := name.spells
      refine ⟨_, rfl, hp.id (hs.avoids rfl rfl) (hs.avoids rfl rfl) (hs.avoids rfl rfl)
        (hs.readName_append_of_isApart ha.unclassed) name.ne_nil, ?_⟩
      exact ⟨isApart_cons (by decide) _, isApart_cons (by decide) _,
        isApart_cons (by decide) _, ha.left⟩
  | attr name comparison =>
      have key : ∃ inside plain, (Part.attr name comparison).print = '[' :: (inside ++ [']']) ∧
          withoutPseudo (inside ++ ']' :: t.source) = .ok (plain ++ ']' :: t.plain) ∧
          Balanced '[' ']' plain ∧ attrName plain = name.chars := by
        cases comparison with
        | none =>
            obtain ⟨plain, he, hb, hn⟩ := exists_plain_word name t.source
            rw [hp.plain] at he
            exact ⟨_, plain, rfl, he, hb, hn⟩
        | some comparison =>
            obtain ⟨plain, he, hb, hn⟩ := exists_plain_comparison name comparison t.source
            rw [hp.plain] at he
            exact ⟨_, plain, by simp [Part.print], he, hb, hn⟩
      obtain ⟨inside, plain, hprint, he, hb, hn⟩ := key
      rw [hprint]
      refine ⟨_, ?_, hp.attr he hb hn name.ne_nil, ?_⟩
      · simp
      · exact ⟨isApart_cons (by decide) _, ha.bare, ha.unclassed, ha.left⟩
  | pseudo double name argument =>
      cases argument with
      | none =>
          refine ⟨_, ?_, hp.pseudo ha.source double name.isName name.ne_nil, ?_⟩
          · simp [Part.print]
          · exact ⟨isApart_colons double _, ha.bare, ha.unclassed, ha.left⟩
      | some argument =>
          refine ⟨_, ?_, hp.call double name.isName name.ne_nil argument.balanced, ?_⟩
          · simp [Part.print]
          · exact ⟨isApart_colons double _, ha.bare, ha.unclassed, ha.left⟩

/-! ## The end of the text -/

/-- A part whose last character is no blank is not changed by trimming. -/
theorem readsApart_trimEnd_of_snoc {p : Part} {s : List Char} {c : Char}
    (hp : p.print = s ++ [c]) (hc : isBlank c = false) :
    ReadsApart (trimEnd p.print) (Names.ofPart p) := by
  have h := readsApart_nil.part p
  rwa [List.append_nil, Names.append_empty, hp, ← trimEnd_snoc hc, ← hp] at h

/-- Colons that no name follows mention nothing. -/
theorem readsShut_colons (double : Bool) : ReadsShut (colons double) .empty := by
  have apart : ∀ s, IsApart (':' :: s) := isApart_cons (by decide)
  have shut : ∀ s, ∀ c ∈ (':' :: s).head?, isBlank c = false := by
    rintro s c ⟨⟩
    decide
  have h1 := passes_nil.copy (c := ':') (by decide) (by decide)
  cases double with
  | false => exact ⟨_, rfl, h1, ⟨apart _, apart _, apart _, apart _⟩, shut _, shut _⟩
  | true =>
      have h2 := h1.copy (c := ':') (by decide) (by decide)
      exact ⟨_, rfl, h2, ⟨apart _, apart _, apart _, apart _⟩, shut _, shut _⟩

/-- The name of a pseudo-class may lose blanks at its end, or be lost to trimming. -/
theorem readsShut_trimEnd_pseudo (double : Bool) (name : PseudoName) :
    ReadsShut (trimEnd (colons double ++ name.chars)) .empty := by
  have hcolons : ∀ c ∈ colons double, isBlank c = false := by
    cases double <;> simp [colons, isBlank]
  rw [trimEnd_append_of_not_isBlank hcolons]
  by_cases hne : trimEnd name.chars = []
  · rw [hne, List.append_nil]
    exact readsShut_colons double
  · have hn : ∀ c ∈ trimEnd name.chars, isNameChar c = true := fun c hc =>
      name.isName c (mem_of_mem_trimEnd hc)
    exact ⟨_, by simp [Stages.nil], passes_nil.pseudo trivial double hn hne,
      ⟨isApart_colons double _, trivial, trivial, trivial⟩, by simp [Stages.nil],
      by simp [Stages.nil]⟩

/-- A part of a compound at the end of a text that is trimmed. -/
theorem readsApart_trimEnd_part (p : Part) : ReadsApart (trimEnd p.print) (Names.ofPart p) := by
  cases p with
  | cls name =>
      rw [Part.print, trimEnd_cons_of_not_isBlank (by decide)]
      refine ⟨_, ?_, passes_nil.cls (name.avoids_trimEnd rfl rfl) (name.avoids_trimEnd rfl rfl)
        name.readName_trimEnd name.ne_nil, ?_⟩
      · simp [Stages.nil]
      · exact ⟨isApart_cons (by decide) _, isApart_cons (by decide) _, trivial, trivial⟩
  | id name =>
      rw [Part.print, trimEnd_cons_of_not_isBlank (by decide)]
      refine ⟨_, ?_, passes_nil.id (name.avoids_trimEnd rfl rfl) (name.avoids_trimEnd rfl rfl)
        (name.avoids_trimEnd rfl rfl) name.readName_trimEnd name.ne_nil, ?_⟩
      · simp [Stages.nil]
      · exact ⟨isApart_cons (by decide) _, isApart_cons (by decide) _,
          isApart_cons (by decide) _, trivial⟩
  | attr name comparison =>
      cases comparison with
      | none => exact readsApart_trimEnd_of_snoc (s := '[' :: name.chars) rfl (by decide)
      | some comparison =>
          exact readsApart_trimEnd_of_snoc (s := '[' :: (name.chars ++ comparison.print))
            (c := ']') (by simp [Part.print]) (by decide)
  | pseudo double name argument =>
      cases argument with
      | none => exact (readsShut_trimEnd_pseudo double name).apart
      | some argument =>
          exact readsApart_trimEnd_of_snoc
            (s := colons double ++ (name.chars ++ '(' :: argument.chars)) (c := ')')
            (by simp [Part.print]) (by decide)

/-! ## Compounds and selectors -/

/-- A text is read in front of a trimmed one if it is read in front of others and at the end. -/
theorem ReadsApart.trimEnd_append {u s : List Char} {m n : Names}
    (front : ∀ {s n}, ReadsApart s n → ReadsApart (u ++ s) (m.append n))
    (last : ReadsApart (trimEnd u) m) (h : ReadsApart (trimEnd s) n) :
    ReadsApart (trimEnd (u ++ s)) (m.append n) := by
  rw [Text.trimEnd_append]
  split
  · rename_i hs
    rw [hs] at h
    rwa [h.reads.eq_empty, Names.append_empty]
  · exact front h

theorem ReadsApart.trimEnd_parts (ps : List Part) {s : List Char} {names : Names}
    (h : ReadsApart (trimEnd s) names) :
    ReadsApart (trimEnd (ps.flatMap Part.print ++ s)) ((Names.ofParts ps).append names) := by
  induction ps with
  | nil => simpa using h
  | cons p rest ih =>
      rw [List.flatMap_cons, List.append_assoc, Names.ofParts_cons, Names.append_assoc]
      exact .trimEnd_append (fun h => h.part p) (readsApart_trimEnd_part p) ih

theorem ReadsApart.trimEnd_compound (c : Compound) {s : List Char} {names : Names}
    (h : ReadsApart (trimEnd s) names) :
    Reads (trimEnd (c.print ++ s)) ((Names.ofCompound c).append names) := by
  obtain ⟨head, ps⟩ := c
  have hp := h.trimEnd_parts ps
  rw [Compound.print, List.append_assoc]
  cases head with
  | nothing => exact hp.reads
  | universal => exact (hp.reads.trimEnd_mark (by decide)).reads
  | tag w =>
      rw [Head.print, trimEnd_append_of_not_isBlank w.notBlank]
      exact hp.word w

theorem Reads.trimEnd_combinator (k : Combinator) {s : List Char} {names : Names}
    (h : Reads (trimEnd s) names) : ReadsApart (trimEnd (k.print ++ s)) names := by
  have hspace : IsMark ' ' := by decide
  cases k with
  | descendant => exact h.trimEnd_mark hspace
  | child | next | later => exact (h.trimEnd_mark_space (by decide)).trimEnd_mark hspace

theorem Canonical.print_cons (first c : Compound) (k : Combinator)
    (rest : List (Combinator × Compound)) :
    (Canonical.mk first ((k, c) :: rest)).print =
      first.print ++ (k.print ++ (Canonical.mk c rest).print) := by
  simp [Canonical.print]

theorem Canonical.names_cons (first c : Compound) (k : Combinator)
    (rest : List (Combinator × Compound)) :
    (Canonical.mk first ((k, c) :: rest)).names =
      (Names.ofCompound first).append (Canonical.mk c rest).names := by
  simp [Canonical.names, Canonical.compounds, Names.ofCompounds_cons]

theorem Canonical.reads_trimEnd (sel : Canonical) : Reads (trimEnd sel.print) sel.names := by
  obtain ⟨first, rest⟩ := sel
  induction rest generalizing first with
  | nil => simpa [Canonical.print, Canonical.names, Canonical.compounds, Names.ofCompounds_cons]
      using readsApart_nil.trimEnd_compound (s := []) first
  | cons kc rest ih =>
      obtain ⟨k, c⟩ := kc
      rw [Canonical.print_cons, Canonical.names_cons]
      exact ((ih c).trimEnd_combinator k).trimEnd_compound first

/-! ## The start of the text -/

/-- A compound is nothing or starts with a character that is no blank. -/
theorem Compound.print_cases (c : Compound) :
    c.print = [] ∨ ∃ d s, c.print = d :: s ∧ isBlank d = false := by
  obtain ⟨head, ps⟩ := c
  cases head with
  | universal => exact .inr ⟨'*', _, rfl, by decide⟩
  | tag w =>
      obtain ⟨d, s, hd⟩ := List.exists_cons_of_ne_nil w.ne_nil
      exact .inr ⟨d, _, by rw [print, Head.print, hd]; rfl, w.notBlank d (by simp [hd])⟩
  | nothing =>
      cases ps with
      | nil => exact .inl rfl
      | cons p rest =>
          refine .inr ?_
          rcases p with name | name | ⟨name, comparison | comparison⟩ |
            ⟨double, name, argument | argument⟩
          all_goals try cases double
          all_goals exact ⟨_, _, rfl, by decide⟩

/-- A compound without text mentions nothing. -/
theorem Names.ofCompound_of_print_eq_nil {c : Compound} (h : c.print = []) :
    Names.ofCompound c = .empty := by
  have hr := readsApart_nil.trimEnd_compound (s := []) c
  rw [h, Names.append_empty] at hr
  exact hr.eq_empty

theorem Canonical.reads_trim_of_cons {sel : Canonical} {d : Char} {s : List Char}
    (h : sel.print = d :: s) (hd : isBlank d = false) : Reads (trim sel.print) sel.names := by
  have hr := sel.reads_trimEnd
  rwa [trim_eq_trimEnd, h, dropBlanks_cons_of_not_isBlank hd, ← h]

/-- A combinator at the start of the text, after a compound without text. -/
theorem Reads.trim_combinator (k : Combinator) {s : List Char} {names : Names}
    (htrim : Reads (trim s) names) (hend : Reads (trimEnd s) names) :
    Reads (trim (k.print ++ s)) names := by
  cases k with
  | descendant => exact htrim
  | child | next | later =>
      -- The first space goes, and nothing else at the start.
      exact hend.trimEnd_mark_space (by decide)

/-- Trimming takes no name from the text of a selector. -/
theorem Canonical.reads_trim (sel : Canonical) : Reads (trim sel.print) sel.names := by
  obtain ⟨first, rest⟩ := sel
  induction rest generalizing first with
  | nil =>
      rcases first.print_cases with hnil | ⟨d, s, hd, hblank⟩
      · have hprint : (Canonical.mk first []).print = [] := by simp [print, hnil]
        have hr := (Canonical.mk first []).reads_trimEnd
        rwa [hprint] at hr ⊢
      · exact reads_trim_of_cons (by rw [print, hd]; rfl) hblank
  | cons kc rest ih =>
      obtain ⟨k, c⟩ := kc
      rcases first.print_cases with hnil | ⟨d, s, hd, hblank⟩
      · rw [print_cons, names_cons, Names.ofCompound_of_print_eq_nil hnil, hnil,
          Names.empty_append]
        exact (ih c).trim_combinator k (Canonical.mk c rest).reads_trimEnd
      · exact reads_trim_of_cons (by rw [print_cons, hd]; rfl) hblank

/-! ## Descriptors -/

def Descriptor.ofNames (text : String) (names : Names) : Descriptor where
  selector := trimString text
  classes := names.classes.map String.ofList
  ids := names.ids.map String.ofList
  tags := names.tags.map String.ofList
  attrs := names.attrs.map String.ofList

theorem Reads.decompose_eq {s : List Char} {names : Names} (h : Reads (trim s) names) :
    decompose (String.ofList s) = .ok (Descriptor.ofNames (String.ofList s) names) := by
  rw [decompose]
  simp only [String.toList_ofList, h.namesOf_eq, Descriptor.ofNames, trimString]

/--
The text of a canonical selector decomposes, and its descriptor has the names of the parts of
the selector, by kind and in the order of the text.
-/
theorem decompose_text (sel : Canonical) :
    decompose sel.text = .ok {
      selector := trimString sel.text
      classes := sel.names.classes.map String.ofList
      ids := sel.names.ids.map String.ofList
      tags := sel.names.tags.map String.ofList
      attrs := sel.names.attrs.map String.ofList } :=
  sel.reads_trim.decompose_eq

end Selector

end StylePrune
