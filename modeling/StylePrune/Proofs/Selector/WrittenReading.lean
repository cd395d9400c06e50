import StylePrune.Proofs.Selector.Written

/-!
# Reading written selectors

The passes find the names of a written selector as long as no part is read in another way
because of what is written behind it.  A pass sees what the passes before it left, so behind
the name that it reads it may meet another character than the one that was written there.
What is carried from the end of the text to its start is therefore what the passes for classes
and for ids meet first: no blank, or one that they can take without harm.
-/

namespace StylePrune

namespace Selector

open Text

variable {N : Type} [NameForm N]

/-! ## Attribute selectors -/

/-- A white space or a character of an operator. -/
def IsFront (c : Char) : Prop :=
  isBlank c = true ∨ c = '=' ∨ c = '~' ∨ c = '|' ∨ c = '^' ∨ c = '$' ∨ c = '*'

theorem IsFront.copied {c : Char} (h : IsFront c) :
    c ≠ ':' ∧ c ≠ '\\' ∧ isQuote c = false ∧ c ≠ '[' ∧ c ≠ ']' := by
  rcases h with h | rfl | rfl | rfl | rfl | rfl | rfl
  · have hne : ∀ x, isBlank x = false → c ≠ x := fun x => ne_of_isBlank h
    refine ⟨hne _ (by decide), hne _ (by decide), ?_, hne _ (by decide), hne _ (by decide)⟩
    simp [isQuote, hne '"' (by decide), hne '\'' (by decide)]
  all_goals decide

theorem isBlank_of_mem_printSpaces {bs : List Space} {c : Char} (h : c ∈ printSpaces bs) :
    isBlank c = true := by
  obtain ⟨b, -, rfl⟩ := List.mem_map.mp h
  exact b.isBlank

namespace Condition

theorem isFront_of_mem_front {t : Condition} {c : Char} (h : c ∈ t.front) : IsFront c := by
  simp only [front, List.mem_append] at h
  rcases h with (h | h) | h
  · exact .inl (isBlank_of_mem_printSpaces h)
  · refine .inr ?_
    revert h
    cases t.comparator <;> simp [Comparator.print] <;> grind
  · exact .inl (isBlank_of_mem_printSpaces h)

/-- Of the operator and the spaces around it, only a bar directly behind the name is taken. -/
theorem takeWhile_front (t : Condition) (s : List Char) :
    (t.front ++ s).takeWhile isAttrNameChar = if t.isGlued then ['|'] else [] := by
  obtain ⟨comparator, value, before, after⟩ := t
  cases before with
  | nil => cases comparator <;> rfl
  | cons b bs =>
      have hb : isAttrNameChar b.char = false := by
        have hne : b.char ≠ ':' ∧ b.char ≠ '|' :=
          ⟨ne_of_isBlank b.isBlank (by decide), ne_of_isBlank b.isBlank (by decide)⟩
        simp [isAttrNameChar, b.isNameChar, hne]
      have hglued : isGlued ⟨comparator, value, b :: bs, after⟩ = false := by simp [isGlued]
      rw [hglued]
      exact List.takeWhile_cons_of_neg (by simp [hb])

/-- Up to the value the first pass finds nothing. -/
theorem avoids_front (t : Condition) (w : Word) :
    Avoids ':' (w.chars ++ t.front ++ ['"']) := by
  refine ((w.avoids (by decide)).append (.of_forall fun c hc => ?_)).append
    (.cons (by decide) (by decide) .nil)
  have hcopied := (isFront_of_mem_front hc).copied
  exact ⟨hcopied.2.1, hcopied.1⟩

/-- What the first pass leaves of the inside of an attribute selector with a tame value. -/
theorem exists_plain (w : Word) {t : Condition} (ht : IsTame t.value) (s : List Char) :
    ∃ plain, withoutPseudo (w.chars ++ t.print ++ ']' :: s) =
        (withoutPseudo s).map (plain ++ ']' :: ·) ∧
      Balanced '[' ']' plain ∧ attrName plain = t.taken w.chars := by
  obtain ⟨left, hleft⟩ := ht
  have hstring := LeavesBefore.of_withoutPseudo endsPseudo_quote (avoids_flatMap_quotedChar _) hleft
  refine ⟨w.chars ++ t.front ++ '"' :: (left ++ ['"']), ?_, ?_, ?_⟩
  · have he : w.chars ++ t.print ++ ']' :: s = w.chars ++ t.front ++ ['"'] ++
        (t.value.flatMap quotedChar ++ '"' :: ']' :: s) := by
      simp [print, quoted]
    rw [he, withoutPseudo_append (t.avoids_front w), hstring.eq,
      withoutPseudo_cons (by decide) (by simp), withoutPseudo_cons (by decide) (by simp)]
    cases withoutPseudo s <;> simp [Except.map]
  · refine .of_forall (fun c hc => ?_) (.quoted rfl hstring.avoids .nil)
    rcases List.mem_append.mp hc with hc | hc
    · exact w.inside hc
    · exact (isFront_of_mem_front hc).copied.2
  · rw [List.append_assoc, w.attrName_append_eq, takeWhile_front, taken]
    cases t.isGlued <;> simp

theorem taken_ne_nil (w : Word) (t : Condition) : t.taken w.chars ≠ [] := by
  rw [taken]
  split <;> simp [w.ne_nil]

end Condition

/-! ## What the passes meet behind a part -/

/-- What stands behind a part: parts, then this text. -/
structure Stages.Behind (ps : List (WrittenPart N)) (a : List Char) (t : Stages) : Prop where
  apart : t.IsApart
  classMeets : MeetsNoBlank (fun p => p.name?.isSome) ps a → ∀ c ∈ t.bare.head?, isBlank c = false
  idMeets : MeetsNoBlank (fun p => p.id?.isSome) ps a → ∀ c ∈ t.unclassed.head?, isBlank c = false
  /-- Without the blank that the pass for classes meets, no stage continues a name. -/
  classSplits : SplitsBehindBlank a → ∀ b bare, t.bare = b :: bare → isBlank b = true →
    Selector.IsApart bare ∧ ∃ unclassed left, t.unclassed = b :: unclassed ∧ t.left = b :: left ∧
      Selector.IsApart unclassed ∧ Selector.IsApart left
  /-- Nor without the blank that the pass for ids meets. -/
  idSplits : ClosesClasses ps → SplitsBehindBlank a → ∀ b unclassed,
    t.unclassed = b :: unclassed → isBlank b = true →
      Selector.IsApart unclassed ∧ ∃ left, t.left = b :: left ∧ Selector.IsApart left

/-- The passes find these names in the text, which stands behind a part as these parts and `a`. -/
def ReadsBehind (ps : List (WrittenPart N)) (a s : List Char) (names : Names) : Prop :=
  ∃ t : Stages, t.source = s ∧ Passes t names ∧ t.Behind ps a

theorem ReadsBehind.readsApart {ps : List (WrittenPart N)} {a s : List Char} {names : Names}
    (h : ReadsBehind ps a s names) : ReadsApart s names := by
  obtain ⟨t, ht, hp, hb⟩ := h
  exact ⟨t, ht, hp, hb.apart⟩

theorem ReadsShut.behind {s : List Char} {names : Names} (h : ReadsShut s names)
    (ps : List (WrittenPart N)) (a : List Char) : ReadsBehind ps a s names := by
  obtain ⟨t, ht, hp, ha, hbare, hunclassed⟩ := h
  refine ⟨t, ht, hp, ha, fun _ => hbare, fun _ => hunclassed, ?_, ?_⟩
  · intro _ b bare hb hblank
    have hshut := hbare b (by rw [hb]; rfl)
    rw [hblank] at hshut
    cases hshut
  · intro _ _ b unclassed hb hblank
    have hshut := hunclassed b (by rw [hb]; rfl)
    rw [hblank] at hshut
    cases hshut

/-- With nothing behind, no pass meets a blank. -/
theorem ReadsBehind.shut {ps : List (WrittenPart N)} {s : List Char} {names : Names}
    (h : ReadsBehind ps [] s names) : ReadsShut s names := by
  obtain ⟨t, ht, hp, hb⟩ := h
  exact ⟨t, ht, hp, hb.apart, hb.classMeets (.inr (by simp)), hb.idMeets (.inr (by simp))⟩

/-- A part that the passes for classes and for ids do not see. -/
theorem Stages.Behind.hidden {ps : List (WrittenPart N)} {a : List Char} {t : Stages}
    (h : t.Behind ps a) {p : WrittenPart N} (hname : p.name? = none) {source plain : List Char}
    (hsource : Selector.IsApart source) :
    Stages.Behind (p :: ps) a { t with source := source, plain := plain } where
  apart := ⟨hsource, h.apart.bare, h.apart.unclassed, h.apart.left⟩
  classMeets hm := h.classMeets (hm.of_cons (by simp [hname]))
  idMeets hm := h.idMeets (hm.of_cons (by cases p <;> first | rfl | cases hname))
  classSplits := h.classSplits
  idSplits hc := h.idSplits fun q hq => hc q (List.mem_cons_of_mem p hq)

/-! ## Parts -/

/-- An attribute selector in front of a text. -/
theorem ReadsBehind.attr {ps : List (WrittenPart N)} {a s : List Char} {names : Names}
    (h : ReadsBehind ps a s names) (w : Word) {t : Option Condition}
    (ht : ∀ t' ∈ t, IsTame t'.value) :
    ReadsBehind (.attr w t :: ps) a ((WrittenPart.attr w t : WrittenPart N).print ++ s)
      ((WrittenPart.attr w t : WrittenPart N).names.append names) := by
  obtain ⟨u, rfl, hp, hb⟩ := h
  have key : ∃ inside plain, (WrittenPart.attr w t : WrittenPart N).print =
        '[' :: (inside ++ [']']) ∧
      withoutPseudo (inside ++ ']' :: u.source) = .ok (plain ++ ']' :: u.plain) ∧
      Balanced '[' ']' plain ∧ attrName plain = takenAttr (w, t) ∧ takenAttr (w, t) ≠ [] := by
    cases t with
    | none =>
        obtain ⟨plain, he, hbal, hn⟩ := exists_plain_word w u.source
        rw [hp.plain] at he
        exact ⟨_, plain, rfl, he, hbal, hn, w.ne_nil⟩
    | some t =>
        obtain ⟨plain, he, hbal, hn⟩ := t.exists_plain w (ht t rfl) u.source
        rw [hp.plain] at he
        exact ⟨_, plain, by simp [WrittenPart.print], he, hbal, hn, t.taken_ne_nil w⟩
  obtain ⟨inside, plain, hprint, he, hbal, hn, hne⟩ := key
  rw [hprint]
  refine ⟨_, ?_, hp.attr he hbal hn hne, hb.hidden rfl (isApart_cons (by decide) _)⟩
  simp

/-- A pseudo-class in front of a text. -/
theorem ReadsBehind.pseudo {ps : List (WrittenPart N)} {a s : List Char} {names : Names}
    (h : ReadsBehind ps a s names) (double : Bool) (name : PseudoName)
    (argument : Option Argument) :
    ReadsBehind (.pseudo double name argument :: ps) a
      ((WrittenPart.pseudo double name argument : WrittenPart N).print ++ s) names := by
  obtain ⟨t, rfl, hp, hb⟩ := h
  cases argument with
  | none =>
      refine ⟨_, ?_, hp.pseudo hb.apart.source double name.isName name.ne_nil,
        hb.hidden rfl (isApart_colons double _)⟩
      simp [WrittenPart.print]
  | some argument =>
      refine ⟨_, ?_, hp.call double name.isName name.ne_nil argument.balanced,
        hb.hidden rfl (isApart_colons double _)⟩
      simp [WrittenPart.print]

/-! ## Open names -/

/-- A pass that copies a blank finds the same names behind it. -/
theorem takePrefixed_of_cons_blank {sigil b : Char} {s left : List Char} {names : List (List Char)}
    (hb : isBlank b = true) (hsigil : isBlank sigil = false)
    (h : takePrefixed sigil (b :: s) = (names, b :: left)) :
    takePrefixed sigil s = (names, left) := by
  rw [takePrefixed_cons (ne_of_isBlank hb (by decide)) (ne_of_isBlank hb hsigil)] at h
  simp only [Prod.mk.injEq, List.cons.injEq, true_and] at h
  exact Prod.ext h.1 h.2

theorem tagRuns_cons_blank {b : Char} (hb : isBlank b = true) (hn : isNameChar b = false)
    (s : List Char) : tagRuns [] (b :: s) = tagRuns [] s := by
  rw [tagRuns_cons (ne_of_isBlank hb (by decide)), hn]
  rfl

/-- A name is read as it is, or a blank behind it is read with it. -/
theorem NameForm.open_cases (n : N) (s : List Char) :
    (NameForm.isOpen n = true → ∀ c ∈ s.head?, isBlank c = false) ∨
      NameForm.isOpen n = true ∧ ∃ b t, s = b :: t ∧ isBlank b = true := by
  cases hopen : NameForm.isOpen n with
  | false => simp
  | true =>
      cases s with
      | nil => simp
      | cons b t => cases hb : isBlank b <;> simp [hb]

section

variable {t : Stages} {names : Names} {b : Char}

theorem Passes.unclassed_of_cons_blank (h : Passes t names) (hb : isBlank b = true)
    {bare unclassed : List Char} (hbare : t.bare = b :: bare) (hu : t.unclassed = b :: unclassed) :
    takePrefixed '.' bare = (names.classes, unclassed) :=
  takePrefixed_of_cons_blank hb rfl (by rw [← hbare, ← hu]; exact h.unclassed)

theorem Passes.left_of_cons_blank (h : Passes t names) (hb : isBlank b = true)
    {unclassed left : List Char} (hu : t.unclassed = b :: unclassed) (hl : t.left = b :: left) :
    takePrefixed '#' unclassed = (names.ids, left) :=
  takePrefixed_of_cons_blank hb rfl (by rw [← hu, ← hl]; exact h.left)

theorem Passes.tags_of_cons_blank (h : Passes t names) (hb : isBlank b = true)
    (hn : isNameChar b = false) {left : List Char} (hl : t.left = b :: left) :
    tagRuns [] left = names.tags := by
  rw [← tagRuns_cons_blank hb hn, ← hl]
  exact h.tags

end

/-! ## Classes and ids -/

/-- A class in front of a text. -/
theorem ReadsBehind.cls {ps : List (WrittenPart N)} {a s : List Char} {names : Names}
    (h : ReadsBehind ps a s names) {n : N} (hx : (Spot.mk (.cls n) ps a).IsSettled) :
    ReadsBehind (.cls n :: ps) a ('.' :: NameForm.print n ++ s)
      { names with classes := NameForm.chars n :: names.classes } := by
  obtain ⟨t, rfl, hp, hb⟩ := h
  have hread := hx.isRead n rfl
  have hcolon : Avoids ':' (NameForm.print n) := NameForm.avoids n rfl rfl
  have hsquare : Avoids '[' (NameForm.print n) := NameForm.avoids n rfl rfl
  rcases NameForm.open_cases n t.bare with hclosed | ⟨hopen, b, bare, hbare, hblank⟩
  · refine ⟨_, rfl, hp.cls hcolon hsquare (NameForm.readName_append hread hb.apart.bare hclosed)
      (NameForm.chars_ne_nil n), ?_⟩
    refine ⟨⟨isApart_cons (by decide) _, isApart_cons (by decide) _, hb.apart.unclassed,
      hb.apart.left⟩, ?_, ?_, ?_, ?_⟩
    · rintro - c ⟨⟩
      decide
    · exact fun hm => hb.idMeets (hm.of_cons rfl)
    · rintro - b bare ⟨⟩ hb
      cases hb
    · exact fun hc => hb.idSplits fun q hq => hc q (List.mem_cons_of_mem _ hq)
  · -- The name takes the blank behind it, which all later stages start with too.
    have hmem : b ∈ t.bare.head? := by rw [hbare]; rfl
    have hmeets : ¬MeetsNoBlank (fun p => p.name?.isSome) ps a := fun hm =>
      absurd (hb.classMeets hm b hmem) (by simp [hblank])
    have hsplits := (hx.openClass n rfl hopen).resolve_left hmeets
    obtain ⟨hbareApart, unclassed, left, hu, hl, huApart, hlApart⟩ :=
      hb.classSplits hsplits b bare hbare hblank
    have hr : readName (NameForm.print n ++ t.bare) = (NameForm.chars n, bare) := by
      rw [hbare]
      exact NameForm.readName_append_blank hread hopen hblank hbareApart
    refine ⟨_, rfl, hp.clsUpTo hcolon hsquare hr (NameForm.chars_ne_nil n)
      (hp.unclassed_of_cons_blank hblank hbare hu) (hp.left_of_cons_blank hblank hu hl)
      (hp.tags_of_cons_blank hblank (hb.apart.bare.of_mem_head? hmem).1 hl), ?_⟩
    refine ⟨⟨isApart_cons (by decide) _, isApart_cons (by decide) _, huApart, hlApart⟩,
      ?_, ?_, ?_, ?_⟩
    · rintro - c ⟨⟩
      decide
    · exact fun hm => absurd (hb.idMeets (hm.of_cons rfl) b (by rw [hu]; rfl)) (by simp [hblank])
    · rintro - b bare ⟨⟩ hb
      cases hb
    · exact fun hc => absurd (hc _ List.mem_cons_self n rfl) (by simp [hopen])

/-- An id in front of a text. -/
theorem ReadsBehind.id {ps : List (WrittenPart N)} {a s : List Char} {names : Names}
    (h : ReadsBehind ps a s names) {n : N} (hx : (Spot.mk (.id n) ps a).IsSettled) :
    ReadsShut ('#' :: NameForm.print n ++ s)
      { names with ids := NameForm.chars n :: names.ids } := by
  obtain ⟨t, rfl, hp, hb⟩ := h
  have hread := hx.isRead n rfl
  have havoids : ∀ {x}, isNameChar x = false → isBlank x = false → Avoids x (NameForm.print n) :=
    NameForm.avoids n
  rcases NameForm.open_cases n t.unclassed with hclosed | ⟨hopen, b, unclassed, hu, hblank⟩
  · exact ⟨_, rfl, hp.id (havoids rfl rfl) (havoids rfl rfl) (havoids rfl rfl)
      (NameForm.readName_append hread hb.apart.unclassed hclosed) (NameForm.chars_ne_nil n),
      ⟨isApart_cons (by decide) _, isApart_cons (by decide) _, isApart_cons (by decide) _,
        hb.apart.left⟩,
      by rintro c ⟨⟩; decide, by rintro c ⟨⟩; decide⟩
  · -- The name takes the blank behind it, which the last stage starts with too.
    have hmem : b ∈ t.unclassed.head? := by rw [hu]; rfl
    have hmeets : ¬MeetsNoBlank (fun p => p.id?.isSome) ps a := fun hm =>
      absurd (hb.idMeets hm b hmem) (by simp [hblank])
    obtain ⟨hclosed, hsplits⟩ := (hx.openId n rfl hopen).resolve_left hmeets
    obtain ⟨huApart, left, hl, hlApart⟩ := hb.idSplits hclosed hsplits b unclassed hu hblank
    have hr : readName (NameForm.print n ++ t.unclassed) = (NameForm.chars n, unclassed) := by
      rw [hu]
      exact NameForm.readName_append_blank hread hopen hblank huApart
    exact ⟨_, rfl, hp.idUpTo (havoids rfl rfl) (havoids rfl rfl) (havoids rfl rfl) hr
      (NameForm.chars_ne_nil n) (hp.left_of_cons_blank hblank hu hl)
      (hp.tags_of_cons_blank hblank (hb.apart.unclassed.of_mem_head? hmem).1 hl),
      ⟨isApart_cons (by decide) _, isApart_cons (by decide) _, isApart_cons (by decide) _,
        hlApart⟩,
      by rintro c ⟨⟩; decide, by rintro c ⟨⟩; decide⟩

/-- A part that its spot does not change, in front of a text. -/
theorem ReadsBehind.part {p : WrittenPart N} {ps : List (WrittenPart N)} {a s : List Char}
    {names : Names} (h : ReadsBehind ps a s names) (hx : (Spot.mk p ps a).IsSettled) :
    ReadsBehind (p :: ps) a (p.print ++ s) (p.names.append names) := by
  cases p with
  | cls n => exact h.cls hx
  | id n => exact (h.id hx).behind _ _
  | attr w t => exact h.attr w hx.tame
  | pseudo double name argument => exact h.pseudo double name argument

/-! ## The end of the text -/

theorem readsShut_trimEnd_cls {n : N} {s : List Char} (hread : NameForm.IsRead n s)
    (hend : NameForm.endsInBlank n = false) :
    ReadsShut (trimEnd (WrittenPart.cls n).print) (WrittenPart.cls n).names := by
  have havoids : ∀ {x}, isNameChar x = false → isBlank x = false →
      Avoids x (trimEnd (NameForm.print n)) := NameForm.avoids_trimEnd hend
  rw [WrittenPart.print, trimEnd_cons_of_not_isBlank (by decide)]
  refine ⟨_, ?_, passes_nil.cls (havoids rfl rfl) (havoids rfl rfl)
    (by rw [Stages.nil, List.append_nil]; exact NameForm.readName_trimEnd hread hend)
    (NameForm.chars_ne_nil n),
    ⟨isApart_cons (by decide) _, isApart_cons (by decide) _, trivial, trivial⟩,
    by rintro c ⟨⟩; decide, by simp [Stages.nil]⟩
  simp [Stages.nil]

theorem readsShut_trimEnd_id {n : N} {s : List Char} (hread : NameForm.IsRead n s)
    (hend : NameForm.endsInBlank n = false) :
    ReadsShut (trimEnd (WrittenPart.id n).print) (WrittenPart.id n).names := by
  have havoids : ∀ {x}, isNameChar x = false → isBlank x = false →
      Avoids x (trimEnd (NameForm.print n)) := NameForm.avoids_trimEnd hend
  rw [WrittenPart.print, trimEnd_cons_of_not_isBlank (by decide)]
  refine ⟨_, ?_, passes_nil.id (havoids rfl rfl) (havoids rfl rfl) (havoids rfl rfl)
    (by rw [Stages.nil, List.append_nil]; exact NameForm.readName_trimEnd hread hend)
    (NameForm.chars_ne_nil n),
    ⟨isApart_cons (by decide) _, isApart_cons (by decide) _, isApart_cons (by decide) _, trivial⟩,
    by rintro c ⟨⟩; decide, by rintro c ⟨⟩; decide⟩
  simp [Stages.nil]

/-- A part that ends in a character that is no blank. -/
theorem ReadsBehind.shut_trimEnd {p : WrittenPart N} {u : List Char} {c : Char}
    {names : Names} (h : ReadsBehind [p] [] (p.print ++ []) names) (hp : p.print = u ++ [c])
    (hc : isBlank c = false) : ReadsShut (trimEnd p.print) names := by
  rw [hp, trimEnd_snoc hc, ← hp, ← List.append_nil p.print]
  exact h.shut

/-- The last part of a text that is trimmed. -/
theorem readsShut_trimEnd_part {x : Spot N} (hx : x.IsSettled) (hrest : trimEnd x.rest = []) :
    ReadsShut (trimEnd x.part.print) x.part.names := by
  obtain ⟨p, behind, after⟩ := x
  cases p with
  | cls n => exact readsShut_trimEnd_cls (hx.isRead n rfl) (hx.ended n rfl hrest)
  | id n => exact readsShut_trimEnd_id (hx.isRead n rfl) (hx.ended n rfl hrest)
  | attr w t =>
      have hend : ∃ u, (WrittenPart.attr w t : WrittenPart N).print = u ++ [']'] := by
        cases t with
        | none => exact ⟨'[' :: w.chars, rfl⟩
        | some t => exact ⟨'[' :: (w.chars ++ t.print), by simp [WrittenPart.print]⟩
      obtain ⟨u, hu⟩ := hend
      have hr := (readsShut_nil.behind [] []).attr (N := N) w hx.tame
      rw [Names.append_empty] at hr
      exact hr.shut_trimEnd hu (by decide)
  | pseudo double name argument =>
      cases argument with
      | none => exact readsShut_trimEnd_pseudo double name
      | some argument =>
          have hu : (WrittenPart.pseudo double name (some argument) : WrittenPart N).print =
              colons double ++ (name.chars ++ '(' :: argument.chars) ++ [')'] := by
            simp [WrittenPart.print]
          have hr := (readsShut_nil.behind [] []).pseudo (N := N) double name (some argument)
          exact hr.shut_trimEnd hu (by decide)

/-! ## Compounds -/

/-- Some parts in front of a text that is trimmed. -/
theorem ReadsBehind.trimEnd_parts {ps : List (WrittenPart N)} {a : List Char} {names : Names}
    (h : ReadsBehind ([] : List (WrittenPart N)) a (trimEnd a) names)
    (hps : ∀ x ∈ spotsOf ps a, x.IsSettled) :
    ReadsBehind ps a (trimEnd (ps.flatMap WrittenPart.print ++ a))
      ((namesOfParts ps).append names) := by
  induction ps with
  | nil => exact h
  | cons p rest ih =>
      have hx : (Spot.mk p rest a).IsSettled := hps _ List.mem_cons_self
      have ih := ih fun x hx => hps x (List.mem_cons_of_mem _ hx)
      rw [List.flatMap_cons, List.append_assoc, namesOfParts_cons, Names.append_assoc,
        Text.trimEnd_append]
      split
      · -- The parts behind it are trimmed to nothing.
        rename_i hrest
        rw [hrest] at ih
        rw [ih.readsApart.reads.eq_empty, Names.append_empty]
        exact (readsShut_trimEnd_part hx hrest).behind _ _
      · exact ih.part hx

/-- The passes find these names in the trimmed text, also where a text that it splits from ends. -/
structure ReadsAtEnd (s : List Char) (names : Names) : Prop where
  reads : Reads (trimEnd s) names
  apart : IsApart s → ReadsApart (trimEnd s) names

theorem ReadsApart.atEnd {s : List Char} {names : Names} (h : ReadsApart (trimEnd s) names) :
    ReadsAtEnd s names :=
  ⟨h.reads, fun _ => h⟩

/-- A compound in front of a text that is trimmed. -/
theorem ReadsBehind.trimEnd_compound {c : WrittenCompound N} {a : List Char} {names : Names}
    (h : ReadsBehind ([] : List (WrittenPart N)) a (trimEnd a) names)
    (hc : ∀ x ∈ spotsOf c.parts a, x.IsSettled) :
    ReadsAtEnd (c.print ++ a) (c.names.append names) := by
  obtain ⟨head, ps⟩ := c
  have hp := (h.trimEnd_parts hc).readsApart
  rw [WrittenCompound.print, List.append_assoc]
  cases head with
  | nothing => exact hp.atEnd
  | universal => exact (hp.reads.trimEnd_mark (by decide)).atEnd
  | tag w =>
      constructor
      · rw [Head.print, trimEnd_append_of_not_isBlank w.notBlank]
        exact hp.word w
      · intro ha
        obtain ⟨d, s, hd⟩ := List.exists_cons_of_ne_nil w.ne_nil
        have hname := w.isName d (by simp [hd])
        have hnot := ha.of_mem_head? (c := d) (by simp [Head.print, hd])
        rw [hname] at hnot
        cases hnot.1

/-! ## Combinators -/

/-- A white space or the sign of a combinator. -/
def IsJoining (c : Char) : Prop :=
  isBlank c = true ∧ isNameChar c = false ∨ c = '>' ∨ c = '+' ∨ c = '~'

theorem IsJoining.copied {c : Char} (h : IsJoining c) :
    (isNameChar c = false ∧ c ≠ '\\' ∧ c ≠ '[' ∧ c ≠ '.' ∧ c ≠ '#') ∧ c ≠ ':' ∧ c ≠ '(' := by
  rcases h with ⟨hb, hn⟩ | rfl | rfl | rfl
  · have hne : ∀ x, isBlank x = false → c ≠ x := fun x => ne_of_isBlank hb
    exact ⟨⟨hn, hne _ (by decide), hne _ (by decide), hne _ (by decide), hne _ (by decide)⟩,
      hne _ (by decide), hne _ (by decide)⟩
  all_goals decide

theorem isJoining_of_mem_printSpaces {bs : List Space} {c : Char} (h : c ∈ printSpaces bs) :
    IsJoining c := by
  obtain ⟨b, -, rfl⟩ := List.mem_map.mp h
  exact .inl ⟨b.isBlank, b.isNameChar⟩

theorem Joint.isJoining {j : Joint} {c : Char} (h : c ∈ j.print) : IsJoining c := by
  cases j with
  | descendant first more => exact isJoining_of_mem_printSpaces h
  | signed before sign after =>
      rcases List.mem_append.mp h with h | h
      · exact isJoining_of_mem_printSpaces h
      · rcases List.mem_cons.mp h with rfl | h
        · cases sign <;> simp [IsJoining, Sign.char]
        · exact isJoining_of_mem_printSpaces h

theorem Joint.print_ne_nil (j : Joint) : j.print ≠ [] := by
  cases j <;> simp [print, printSpaces]

/-- A character between compounds, in front of a text that is trimmed. -/
theorem ReadsAtEnd.joining {c : Char} (hc : IsJoining c) {s : List Char} {names : Names}
    (h : ReadsAtEnd s names) :
    ReadsBehind ([] : List (WrittenPart N)) (c :: s) (trimEnd (c :: s)) names := by
  rw [trimEnd_cons]
  split
  · rename_i hs
    simp only [Bool.and_eq_true, List.isEmpty_iff] at hs
    have hreads := h.reads
    rw [hs.2] at hreads
    rw [hreads.eq_empty]
    exact readsShut_nil.behind _ _
  · obtain ⟨hcopy, hcolon, hround⟩ := hc.copied
    have apart := isApart_cons ⟨hcopy.1, hcopy.2.1, hround⟩
    -- Behind a blank, what is apart in the text is apart in all stages.
    obtain ⟨t, ht, hp, hsplits⟩ : ∃ t : Stages, t.source = trimEnd s ∧ Passes t names ∧
        (IsApart s → t.IsApart) := by
      by_cases hs : IsApart s
      · obtain ⟨t, ht, hp, ha⟩ := h.apart hs
        exact ⟨t, ht, hp, fun _ => ha⟩
      · obtain ⟨t, ht, hp⟩ := h.reads
        exact ⟨t, ht, hp, fun h => absurd h hs⟩
    have hdrop : ∀ {b bare w}, c :: w = b :: bare → isBlank b = true →
        SplitsBehindBlank (c :: s) → b = c ∧ bare = w ∧ t.IsApart := by
      rintro b bare w ⟨⟩ hb hs
      rw [SplitsBehindBlank, dropOneBlank, if_pos hb] at hs
      exact ⟨rfl, rfl, hsplits hs⟩
    refine ⟨_, by rw [← ht], hp.copy hcopy fun h => hcolon h.1,
      ⟨apart _, apart _, apart _, apart _⟩, ?_, ?_, ?_, ?_⟩
    · simp [MeetsNoBlank]
    · simp [MeetsNoBlank]
    · intro hs b bare he hb
      obtain ⟨rfl, rfl, ha⟩ := hdrop he hb hs
      exact ⟨ha.bare, _, _, rfl, rfl, ha.unclassed, ha.left⟩
    · intro _ hs b unclassed he hb
      obtain ⟨rfl, rfl, ha⟩ := hdrop he hb hs
      exact ⟨ha.unclassed, _, rfl, ha.left⟩

/-- Characters between compounds, in front of a text that is trimmed. -/
theorem ReadsAtEnd.joinings {us s : List Char} (hus : ∀ c ∈ us, IsJoining c) {names : Names}
    (h : ReadsAtEnd s names) : ReadsAtEnd (us ++ s) names ∧
      (us ≠ [] → ReadsBehind ([] : List (WrittenPart N)) (us ++ s) (trimEnd (us ++ s)) names) := by
  induction us with
  | nil => exact ⟨h, fun hne => absurd rfl hne⟩
  | cons c rest ih =>
      have key : ReadsBehind ([] : List (WrittenPart N)) (c :: rest ++ s) (trimEnd (c :: rest ++ s))
          names :=
        (ih fun d hd => hus d (List.mem_cons_of_mem c hd)).1.joining (hus c List.mem_cons_self)
      exact ⟨key.readsApart.atEnd, fun _ => key⟩

theorem ReadsAtEnd.joint (j : Joint) {s : List Char} {names : Names} (h : ReadsAtEnd s names) :
    ReadsBehind ([] : List (WrittenPart N)) (j.print ++ s) (trimEnd (j.print ++ s)) names :=
  (h.joinings fun _ hc => j.isJoining hc).2 j.print_ne_nil

/-! ## Selectors -/

theorem Written.isSettled_cons {first c : WrittenCompound N} {j : Joint}
    {rest : List (Joint × WrittenCompound N)} (h : (Written.mk first ((j, c) :: rest)).IsSettled) :
    (∀ x ∈ spotsOf first.parts (j.print ++ (Written.mk c rest).print), x.IsSettled) ∧
      (Written.mk c rest).IsSettled :=
  List.forall_mem_append.mp h

theorem Written.readsAtEnd {sel : Written N} (h : sel.IsSettled) :
    ReadsAtEnd sel.print sel.names := by
  obtain ⟨first, rest⟩ := sel
  induction rest generalizing first with
  | nil =>
      have hr := (readsShut_nil.behind ([] : List (WrittenPart N)) []).trimEnd_compound h
      simpa [print, names_singleton] using hr
  | cons jc rest ih =>
      obtain ⟨j, c⟩ := jc
      obtain ⟨hfirst, hrest⟩ := isSettled_cons h
      rw [print_cons, names_cons]
      exact ((ih c hrest).joint j).trimEnd_compound hfirst

/-- A compound is nothing or starts with a character that is no blank. -/
theorem WrittenCompound.print_cases (c : WrittenCompound N) :
    (c.head = .nothing ∧ c.parts = []) ∨ ∃ d s, c.print = d :: s ∧ isBlank d = false := by
  obtain ⟨head, ps⟩ := c
  cases head with
  | universal => exact .inr ⟨'*', _, rfl, by decide⟩
  | tag w =>
      obtain ⟨d, s, hd⟩ := List.exists_cons_of_ne_nil w.ne_nil
      exact .inr ⟨d, _, by rw [print, Head.print, hd]; rfl, w.notBlank d (by simp [hd])⟩
  | nothing =>
      cases ps with
      | nil => exact .inl ⟨rfl, rfl⟩
      | cons p rest =>
          refine .inr ?_
          rcases p with name | name | ⟨name, condition | condition⟩ |
            ⟨double, name, argument | argument⟩
          all_goals try cases double
          all_goals exact ⟨_, _, rfl, by decide⟩

/-- Characters between compounds at the start of a text that is trimmed. -/
theorem ReadsAtEnd.trim_joint (j : Joint) {s : List Char} {names : Names}
    (hend : ReadsAtEnd s names) (htrim : Reads (trim s) names) :
    Reads (trim (j.print ++ s)) names := by
  cases j with
  | descendant first more =>
      have hdrop : dropBlanks (printSpaces (first :: more) ++ s) = dropBlanks s :=
        List.dropWhile_append_of_pos fun c hc => isBlank_of_mem_printSpaces hc
      rwa [Joint.print, trim_eq_trimEnd, hdrop]
  | signed before sign after =>
      -- The spaces before the sign go, and nothing else at the start.
      have hsign : isBlank sign.char = false := by cases sign <;> decide
      have hdrop : dropBlanks (printSpaces before ++ (sign.char :: printSpaces after ++ s)) =
          sign.char :: printSpaces after ++ s := by
        rw [dropBlanks, List.dropWhile_append_of_pos fun c hc => isBlank_of_mem_printSpaces hc]
        exact dropBlanks_cons_of_not_isBlank hsign _
      rw [Joint.print, List.append_assoc, trim_eq_trimEnd, hdrop]
      refine (hend.joinings (N := Label) fun c hc => ?_).1.reads
      exact (Joint.signed before sign after).isJoining (List.mem_append_right _ hc)

theorem Written.reads_trim_of_cons {sel : Written N} (h : sel.IsSettled) {d : Char}
    {s : List Char} (hprint : sel.print = d :: s) (hd : isBlank d = false) :
    Reads (trim sel.print) sel.names := by
  have hr := (readsAtEnd h).reads
  rwa [trim_eq_trimEnd, hprint, dropBlanks_cons_of_not_isBlank hd, ← hprint]

/-- Trimming takes no name from the text of a selector. -/
theorem Written.reads_trim {sel : Written N} (h : sel.IsSettled) :
    Reads (trim sel.print) sel.names := by
  obtain ⟨first, rest⟩ := sel
  induction rest generalizing first with
  | nil =>
      rcases first.print_cases with ⟨hhead, hparts⟩ | ⟨d, s, hd, hblank⟩
      · have hr := (readsAtEnd h).reads
        have hprint : (Written.mk first []).print = [] := by
          simp [print, WrittenCompound.print, Head.print, hhead, hparts]
        rwa [hprint] at hr ⊢
      · exact reads_trim_of_cons h (by rw [print, hd]; rfl) hblank
  | cons jc rest ih =>
      obtain ⟨j, c⟩ := jc
      rcases first.print_cases with ⟨hhead, hparts⟩ | ⟨d, s, hd, hblank⟩
      · have hprint : first.print = [] := by
          simp [WrittenCompound.print, Head.print, hhead, hparts]
        have hnames : first.names = .empty := by
          simp [WrittenCompound.names, namesOfParts, Names.empty, Head.tag?, hhead, hparts]
        have hrest := (isSettled_cons h).2
        rw [print_cons, names_cons, hprint, hnames, Names.empty_append]
        exact (readsAtEnd hrest).trim_joint j (ih c hrest)
      · exact reads_trim_of_cons h (by rw [print_cons, hd]; rfl) hblank

end Selector

end StylePrune
