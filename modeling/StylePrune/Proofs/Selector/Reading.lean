import StylePrune.Proofs.Selector.Canonical
import StylePrune.Proofs.Selector.Spelling

/-!
# Reading canonical selectors

What the five passes leave of a canonical selector, part by part.  A part in front of a text
is read without looking at the rest, as long as the rest cannot continue it; so the names of a
text with a part in front are those of the part and then those of the text.  The blanks that
trimming takes from the end belong to no name.
-/

namespace StylePrune

namespace Selector

open Text

/-- The text does not continue a name, a run of name characters or a pseudo-class before it. -/
def IsApart : List Char → Prop
  | [] => True
  | c :: _ => isNameChar c = false ∧ c ≠ '\\' ∧ c ≠ '('

instance : ∀ s, Decidable (IsApart s)
  | [] => isTrue trivial
  | c :: _ => inferInstanceAs (Decidable (isNameChar c = false ∧ c ≠ '\\' ∧ c ≠ '('))

theorem isApart_cons {c : Char} (h : isNameChar c = false ∧ c ≠ '\\' ∧ c ≠ '(')
    (s : List Char) : IsApart (c :: s) := h

theorem IsApart.of_mem_head? {s : List Char} (h : IsApart s) {c : Char} (hc : c ∈ s.head?) :
    isNameChar c = false ∧ c ≠ '\\' ∧ c ≠ '(' := by
  cases s with
  | nil => cases hc
  | cons d rest =>
      obtain rfl : d = c := by simpa using hc
      exact h

/-- The text and what the passes leave of it, one after another. -/
structure Stages where
  source : List Char
  /-- Without pseudo-classes. -/
  plain : List Char
  /-- Without attribute selectors. -/
  bare : List Char
  /-- Without classes. -/
  unclassed : List Char
  /-- Without ids. -/
  left : List Char

/-- The passes go through these stages and find these names. -/
structure Passes (t : Stages) (names : Names) : Prop where
  plain : withoutPseudo t.source = .ok t.plain
  bare : takeAttributes t.plain = .ok (names.attrs, t.bare)
  unclassed : takePrefixed '.' t.bare = (names.classes, t.unclassed)
  left : takePrefixed '#' t.unclassed = (names.ids, t.left)
  tags : tagRuns [] t.left = names.tags

/-- No stage continues what may stand before the text. -/
structure Stages.IsApart (t : Stages) : Prop where
  source : Selector.IsApart t.source
  bare : Selector.IsApart t.bare
  unclassed : Selector.IsApart t.unclassed
  left : Selector.IsApart t.left

/-- The passes find these names in the text. -/
def Reads (s : List Char) (names : Names) : Prop :=
  ∃ t : Stages, t.source = s ∧ Passes t names

/-- The passes find these names in the text, whatever part of a compound stands before it. -/
def ReadsApart (s : List Char) (names : Names) : Prop :=
  ∃ t : Stages, t.source = s ∧ Passes t names ∧ t.IsApart

/-- The passes for classes and for ids meet no blank at the start of the text either. -/
def ReadsShut (s : List Char) (names : Names) : Prop :=
  ∃ t : Stages, t.source = s ∧ Passes t names ∧ t.IsApart ∧
    (∀ c ∈ t.bare.head?, isBlank c = false) ∧ ∀ c ∈ t.unclassed.head?, isBlank c = false

theorem ReadsShut.apart {s : List Char} {names : Names} (h : ReadsShut s names) :
    ReadsApart s names := by
  obtain ⟨t, ht, hp, ha, -, -⟩ := h
  exact ⟨t, ht, hp, ha⟩

theorem ReadsApart.reads {s : List Char} {names : Names} (h : ReadsApart s names) :
    Reads s names := by
  obtain ⟨t, ht, hp, -⟩ := h
  exact ⟨t, ht, hp⟩

theorem Reads.namesOf_eq {s : List Char} {names : Names} (h : Reads s names) :
    namesOf s = .ok names := by
  obtain ⟨t, rfl, hp⟩ := h
  rw [namesOf, hp.plain]
  simp only [bind, Except.bind, hp.bare, hp.unclassed, hp.left, hp.tags]
  rfl

def Stages.nil : Stages :=
  ⟨[], [], [], [], []⟩

theorem passes_nil : Passes .nil .empty := by
  refine ⟨?_, ?_, ?_, ?_, rfl⟩
  · rw [Stages.nil, withoutPseudo]
  · rw [Stages.nil, takeAttributes]
    rfl
  · rw [Stages.nil, takePrefixed]
    rfl
  · rw [Stages.nil, takePrefixed]
    rfl

theorem readsShut_nil : ReadsShut [] .empty :=
  ⟨.nil, rfl, passes_nil, ⟨trivial, trivial, trivial, trivial⟩, by simp [Stages.nil],
    by simp [Stages.nil]⟩

theorem readsApart_nil : ReadsApart [] .empty :=
  readsShut_nil.apart

theorem Reads.eq_empty {names : Names} (h : Reads [] names) : names = .empty := by
  have hn := readsApart_nil.reads.namesOf_eq
  rw [h.namesOf_eq] at hn
  exact Except.ok.inj hn

/-! ## Marks -/

/-- A character that every pass copies in front of the stages of a text. -/
theorem Passes.copy {c : Char}
    (hc : isNameChar c = false ∧ c ≠ '\\' ∧ c ≠ '[' ∧ c ≠ '.' ∧ c ≠ '#')
    {t : Stages} {names : Names} (hp : Passes t names)
    (hs : ¬(c = ':' ∧ startsPseudo t.source = true)) :
    Passes ⟨c :: t.source, c :: t.plain, c :: t.bare, c :: t.unclassed, c :: t.left⟩ names := by
  obtain ⟨hn, hslash, hsquare, hdot, hhash⟩ := hc
  refine ⟨?_, ?_, ?_, ?_, ?_⟩
  · rw [withoutPseudo_cons hslash hs, hp.plain]
    rfl
  · rw [takeAttributes_cons hslash hsquare, hp.bare]
    rfl
  · rw [takePrefixed_cons hslash hdot, hp.unclassed]
  · rw [takePrefixed_cons hslash hhash, hp.left]
  · rw [tagRuns_cons hslash, hn]
    exact hp.tags

/-- The combinators, the space and the universal selector. -/
def IsMark (c : Char) : Prop :=
  c = ' ' ∨ c = '>' ∨ c = '+' ∨ c = '~' ∨ c = '*'

instance (c : Char) : Decidable (IsMark c) :=
  inferInstanceAs (Decidable (_ ∨ _))

theorem Reads.mark {c : Char} (hc : IsMark c) {s : List Char} {names : Names}
    (h : Reads s names) : ReadsApart (c :: s) names := by
  obtain ⟨t, rfl, hp⟩ := h
  have hcopy : isNameChar c = false ∧ c ≠ '\\' ∧ c ≠ '[' ∧ c ≠ '.' ∧ c ≠ '#' := by
    rcases hc with rfl | rfl | rfl | rfl | rfl <;> decide
  have hmark : c ≠ ':' ∧ c ≠ '(' := by
    rcases hc with rfl | rfl | rfl | rfl | rfl <;> decide
  have apart := isApart_cons ⟨hcopy.1, hcopy.2.1, hmark.2⟩
  exact ⟨_, rfl, hp.copy hcopy fun h => hmark.1 h.1, ⟨apart _, apart _, apart _, apart _⟩⟩

/-- A mark in front of a text that is trimmed. -/
theorem Reads.trimEnd_mark {c : Char} (hc : IsMark c) {s : List Char} {names : Names}
    (h : Reads (trimEnd s) names) : ReadsApart (trimEnd (c :: s)) names := by
  rw [trimEnd_cons]
  split
  · rename_i hs
    simp only [Bool.and_eq_true, List.isEmpty_iff] at hs
    rw [hs.2] at h
    rw [h.eq_empty]
    exact readsApart_nil
  · exact h.mark hc

/-- A combinator with the space behind it. -/
theorem Reads.trimEnd_mark_space {c : Char} (hc : IsMark c) {s : List Char} {names : Names}
    (h : Reads (trimEnd s) names) : Reads (trimEnd (c :: ' ' :: s)) names := by
  have hspace : IsMark ' ' := by decide
  exact ((h.trimEnd_mark hspace).reads.trimEnd_mark hc).reads

/-! ## Runs -/

theorem tagRuns_append {x : Char} {u : List Char} (h : Avoids x u) {s : List Char}
    (hs : IsApart s) (current : List Char) :
    tagRuns current (u ++ s) = tagRuns current u ++ tagRuns [] s := by
  induction h generalizing current with
  | nil =>
      -- The run that is open ends here, since `s` cannot continue it.
      cases s with
      | nil => simp [tagRuns]
      | cons c rest =>
          rw [List.nil_append, tagRuns_cons hs.2.1, tagRuns_cons hs.2.1]
          cases current <;> simp [hs.1, tagRuns]
  | escape c _ ih =>
      rw [List.cons_append, List.cons_append, tagRuns, tagRuns, ih]
  | @cons c rest hc _ _ ih =>
      rw [List.cons_append, tagRuns_cons hc, tagRuns_cons hc, ih, ih]
      split
      · rfl
      · split <;> rfl

/-! ## Element types -/

theorem tagRuns_word {w : List Char} (hw : ∀ c ∈ w, isNameChar c = true) {s : List Char}
    (hs : IsApart s) (current : List Char) (hne : current.reverse ++ w ≠ []) :
    tagRuns current (w ++ s) = (current.reverse ++ w) :: tagRuns [] s := by
  induction w generalizing current with
  | nil =>
      rw [List.append_nil] at hne ⊢
      rw [ne_eq, List.reverse_eq_nil_iff] at hne
      cases s with
      | nil => simp [tagRuns, hne]
      | cons c rest =>
          rw [List.nil_append, tagRuns_cons hs.2.1, tagRuns_cons hs.2.1]
          simp [hs.1, hne]
  | cons c rest ih =>
      have hc := hw c List.mem_cons_self
      rw [List.cons_append, tagRuns_cons (ne_of_isNameChar hc (by decide)), if_pos hc,
        ih (fun d hd => hw d (List.mem_cons_of_mem c hd)) _ (by simp)]
      simp

theorem Word.avoids (w : Word) {x : Char} (hx : isNameChar x = false) : Avoids x w.chars :=
  .of_forall fun c hc =>
    ⟨ne_of_isNameChar (w.isName c hc) (by decide), ne_of_isNameChar (w.isName c hc) hx⟩

/-- The name of an element type in front of a text. -/
theorem ReadsApart.word (w : Word) {s : List Char} {names : Names} (h : ReadsApart s names) :
    Reads (w.chars ++ s) { names with tags := w.chars :: names.tags } := by
  obtain ⟨t, rfl, hp, ha⟩ := h
  refine ⟨⟨w.chars ++ t.source, w.chars ++ t.plain, w.chars ++ t.bare, w.chars ++ t.unclassed,
    w.chars ++ t.left⟩, rfl, ⟨?_, ?_, ?_, ?_, ?_⟩⟩
  · rw [withoutPseudo_append (w.avoids (by decide)), hp.plain]
    rfl
  · rw [takeAttributes_append (w.avoids (by decide)), hp.bare]
    rfl
  · rw [takePrefixed_append (w.avoids (by decide)), hp.unclassed]
  · rw [takePrefixed_append (w.avoids (by decide)), hp.left]
  · rw [tagRuns_word w.isName ha.left [] (by simpa using w.ne_nil), hp.tags]
    rfl

/-! ## Classes and ids -/

theorem readName_of_isApart {s : List Char} (h : IsApart s) : readName s = ([], s) := by
  cases s with
  | nil => rw [readName]
  | cons c rest => rw [readName, if_neg (by simp [h.1]), if_neg h.2.1]

theorem Spells.readName_append_of_isApart {s name rest : List Char} (h : Spells s name)
    (hr : IsApart rest) : readName (s ++ rest) = (name, rest) := by
  rw [h.readName_append, readName_of_isApart hr, List.append_nil]

theorem Label.spells (name : Label) : Spells (serializeName name.chars) name.chars :=
  spells_serializeName name.notNul

/-- No pass looks inside a written name, also where its last blank is trimmed. -/
theorem Label.avoids_trimEnd (name : Label) {x : Char} (hx : isNameChar x = false)
    (hb : isBlank x = false) : Avoids x (trimEnd (serializeName name.chars)) :=
  name.spells.avoids_trimEnd name.notBlank hx hb

theorem Label.readName_trimEnd (name : Label) :
    readName (trimEnd (serializeName name.chars) ++ []) = (name.chars, []) := by
  rw [List.append_nil]
  exact name.spells.readName_trimEnd name.notBlank

/-- A written class in front of a text, where the passes go on behind what is read for it. -/
theorem Passes.clsUpTo {t : Stages} {names : Names} (hp : Passes t names)
    {u name bare unclassed left : List Char} (hcolon : Avoids ':' u) (hsquare : Avoids '[' u)
    (hr : readName (u ++ t.bare) = (name, bare)) (hne : name ≠ [])
    (hclasses : takePrefixed '.' bare = (names.classes, unclassed))
    (hids : takePrefixed '#' unclassed = (names.ids, left)) (htags : tagRuns [] left = names.tags) :
    Passes ⟨'.' :: u ++ t.source, '.' :: u ++ t.plain, '.' :: u ++ t.bare, unclassed, left⟩
      { names with classes := name :: names.classes } where
  plain := by
    rw [withoutPseudo_append (.cons (by decide) (by decide) hcolon), hp.plain]
    rfl
  bare := by
    rw [takeAttributes_append (.cons (by decide) (by decide) hsquare), hp.bare]
    rfl
  unclassed := by
    change takePrefixed '.' ('.' :: (u ++ t.bare)) = _
    rw [takePrefixed_sigil (by decide) (by rwa [hr]), hr, hclasses]
  left := hids
  tags := htags

/-- A written class in front of the stages of a text. -/
theorem Passes.cls {t : Stages} {names : Names} (hp : Passes t names) {u name : List Char}
    (hcolon : Avoids ':' u) (hsquare : Avoids '[' u)
    (hr : readName (u ++ t.bare) = (name, t.bare)) (hne : name ≠ []) :
    Passes ⟨'.' :: u ++ t.source, '.' :: u ++ t.plain, '.' :: u ++ t.bare, t.unclassed, t.left⟩
      { names with classes := name :: names.classes } :=
  hp.clsUpTo hcolon hsquare hr hne hp.unclassed hp.left hp.tags

/-- A written id in front of a text, where the passes go on behind what is read for it. -/
theorem Passes.idUpTo {t : Stages} {names : Names} (hp : Passes t names)
    {u name unclassed left : List Char} (hcolon : Avoids ':' u) (hsquare : Avoids '[' u)
    (hdot : Avoids '.' u) (hr : readName (u ++ t.unclassed) = (name, unclassed)) (hne : name ≠ [])
    (hids : takePrefixed '#' unclassed = (names.ids, left)) (htags : tagRuns [] left = names.tags) :
    Passes ⟨'#' :: u ++ t.source, '#' :: u ++ t.plain, '#' :: u ++ t.bare,
      '#' :: u ++ t.unclassed, left⟩ { names with ids := name :: names.ids } where
  plain := by
    rw [withoutPseudo_append (.cons (by decide) (by decide) hcolon), hp.plain]
    rfl
  bare := by
    rw [takeAttributes_append (.cons (by decide) (by decide) hsquare), hp.bare]
    rfl
  unclassed := by
    rw [takePrefixed_append (.cons (by decide) (by decide) hdot), hp.unclassed]
  left := by
    change takePrefixed '#' ('#' :: (u ++ t.unclassed)) = _
    rw [takePrefixed_sigil (by decide) (by rwa [hr]), hr, hids]
  tags := htags

/-- A written id in front of the stages of a text. -/
theorem Passes.id {t : Stages} {names : Names} (hp : Passes t names) {u name : List Char}
    (hcolon : Avoids ':' u) (hsquare : Avoids '[' u) (hdot : Avoids '.' u)
    (hr : readName (u ++ t.unclassed) = (name, t.unclassed)) (hne : name ≠ []) :
    Passes ⟨'#' :: u ++ t.source, '#' :: u ++ t.plain, '#' :: u ++ t.bare,
      '#' :: u ++ t.unclassed, t.left⟩ { names with ids := name :: names.ids } :=
  hp.idUpTo hcolon hsquare hdot hr hne hp.left hp.tags

end Selector

end StylePrune
