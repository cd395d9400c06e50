import StylePrune.Proofs.Selector.Reading

/-!
# Parts of compounds

What the passes leave of the parts of a compound.  The first pass sees no strings: it takes
what looks like a pseudo-class from the value of an attribute selector too, but what it leaves
is the text of some string again, so the name of the attribute is read all the same.
-/

namespace StylePrune

namespace Selector

open Text

/-! ## Strings -/

theorem avoids_flatMap_quotedChar (v : List Char) : Avoids '"' (v.flatMap quotedChar) := by
  induction v with
  | nil => exact .nil
  | cons c rest ih =>
      rw [List.flatMap_cons, quotedChar]
      split
      · exact .escape c ih
      · rename_i hc
        rw [not_or] at hc
        exact .cons hc.2 hc.1 ih

theorem dropColon_quoted (v s : List Char) :
    dropColon (v.flatMap quotedChar ++ '"' :: s) =
      (dropColon v).flatMap quotedChar ++ '"' :: s := by
  cases v with
  | nil => rfl
  | cons c rest =>
      by_cases hc : c = ':'
      · subst hc
        rfl
      · rw [dropColon.eq_2 (c :: rest) (by simp [hc]), dropColon.eq_2]
        rw [List.flatMap_cons, quotedChar]
        split <;> simp [hc]

theorem dropWhile_quoted (v s : List Char) :
    (v.flatMap quotedChar ++ '"' :: s).dropWhile isNameChar =
      (v.dropWhile isNameChar).flatMap quotedChar ++ '"' :: s := by
  induction v with
  | nil => rfl
  | cons c rest ih =>
      by_cases hc : isNameChar c = true
      · have hq : quotedChar c = [c] := by
          rw [quotedChar, if_neg]
          rw [not_or]
          exact ⟨ne_of_isNameChar hc (by decide), ne_of_isNameChar hc (by decide)⟩
        simpa [hq, hc] using ih
      · rw [List.dropWhile_cons_of_neg hc, List.flatMap_cons, quotedChar]
        split
        · rfl
        · simp [hc]

/-- In a string the name of a pseudo-class ends before the string does. -/
theorem dropPseudoName_quoted (v s : List Char) :
    dropPseudoName (v.flatMap quotedChar ++ '"' :: s) =
      (dropPseudoName v).flatMap quotedChar ++ '"' :: s := by
  rw [dropPseudoName, dropColon_quoted, dropWhile_quoted]
  rfl

theorem mem_of_mem_dropPseudoName {v : List Char} {c : Char} (h : c ∈ dropPseudoName v) :
    c ∈ v := by
  have hc := (List.dropWhile_sublist _).mem h
  revert hc
  fun_cases dropColon v with
  | case1 rest => exact List.mem_cons_of_mem ':'
  | case2 => exact fun hc => hc

theorem head?_quoted {v : List Char} (h : '(' ∉ v) (s : List Char) :
    (v.flatMap quotedChar ++ '"' :: s).head? ≠ some '(' := by
  cases v with
  | nil => simp
  | cons c rest =>
      rw [List.mem_cons, not_or] at h
      rw [List.flatMap_cons, quotedChar]
      split
      · simp
      · simpa using Ne.symm h.1

/-- What looks like a pseudo-class goes from a string too, but the string stays one. -/
theorem withoutPseudo_quoted {v : List Char} (h : '(' ∉ v) (s : List Char) :
    ∃ v' : List Char, withoutPseudo (v.flatMap quotedChar ++ '"' :: s) =
      (withoutPseudo s).map (v'.flatMap quotedChar ++ '"' :: ·) := by
  induction hn : v.length using Nat.strongRecOn generalizing v with
  | ind n ih =>
      subst hn
      cases v with
      | nil => exact ⟨[], withoutPseudo_cons (by decide) (by simp)⟩
      | cons c rest =>
          have hrest : '(' ∉ rest := fun hm => h (List.mem_cons_of_mem c hm)
          by_cases hp : c = ':' ∧ startsPseudo (rest.flatMap quotedChar ++ '"' :: s) = true
          · -- The name of the pseudo-class goes, and the string continues behind it.
            obtain ⟨rfl, hs⟩ := hp
            have hdrop : '(' ∉ dropPseudoName rest := fun hm => hrest (mem_of_mem_dropPseudoName hm)
            obtain ⟨v', hv'⟩ := ih _ (Nat.lt_succ_of_le (length_dropPseudoName_le rest)) hdrop rfl
            refine ⟨v', ?_⟩
            have hhead := head?_quoted hdrop s
            rw [← dropPseudoName_quoted] at hhead
            have hb := withoutPseudo_bare hs hhead
            rwa [dropPseudoName_quoted, hv'] at hb
          · obtain ⟨v', hv'⟩ := ih _ (Nat.lt_succ_self rest.length) hrest rfl
            refine ⟨c :: v', ?_⟩
            rw [List.flatMap_cons, List.flatMap_cons, quotedChar]
            split
            · rw [List.append_assoc, List.cons_append, List.singleton_append,
                withoutPseudo_escape, hv']
              cases withoutPseudo s <;> rfl
            · rename_i hc
              rw [not_or] at hc
              rw [List.append_assoc, List.singleton_append, withoutPseudo_cons hc.2 hp, hv']
              cases withoutPseudo s <;> rfl

/-! ## Attribute selectors -/

/-- The characters of operators and the space. -/
def IsSign (c : Char) : Prop :=
  c = ' ' ∨ c = '=' ∨ c = '~' ∨ c = '^' ∨ c = '$' ∨ c = '*'

theorem Comparison.isSign_of_mem_front {t : Comparison} {c : Char} (h : c ∈ t.front) :
    IsSign c := by
  simp only [front, List.mem_append, List.mem_replicate] at h
  rcases h with (h | h) | h
  · exact .inl h.2
  · cases ho : t.operator <;> simp [ho, Operator.print] at h <;> simp [IsSign, h]
    all_goals rcases h with rfl | rfl <;> simp
  · exact .inl h.2

theorem Comparison.front_ne_nil (t : Comparison) : t.front ≠ [] := by
  cases ho : t.operator <;> simp [front, Operator.print, ho]

/-- A written attribute selector in front of the stages of a text. -/
theorem Passes.attr {t : Stages} {names : Names} (hp : Passes t names)
    {inside plain name : List Char}
    (hplain : withoutPseudo (inside ++ ']' :: t.source) = .ok (plain ++ ']' :: t.plain))
    (hb : Balanced '[' ']' plain) (hn : attrName plain = name) (hne : name ≠ []) :
    Passes ⟨'[' :: (inside ++ ']' :: t.source), '[' :: (plain ++ ']' :: t.plain), t.bare,
      t.unclassed, t.left⟩ { names with attrs := name :: names.attrs } where
  plain := by
    change withoutPseudo ('[' :: (inside ++ ']' :: t.source)) = _
    rw [withoutPseudo_cons (by decide) (by simp), hplain]
    rfl
  bare := by
    change takeAttributes ('[' :: (plain ++ ']' :: t.plain)) = _
    rw [takeAttributes_bracket (hb.splitClosing?_append isPair_square _) (by rwa [hn]), hp.bare, hn]
    rfl
  unclassed := hp.unclassed
  left := hp.left
  tags := hp.tags

/-- The name of an attribute goes on behind a word as long as a name may. -/
theorem Word.attrName_append_eq (w : Word) (s : List Char) :
    attrName (w.chars ++ s) = w.chars ++ s.takeWhile isAttrNameChar := by
  obtain ⟨c, rest, hc⟩ := List.exists_cons_of_ne_nil w.ne_nil
  have hblank : dropBlanks (w.chars ++ s) = w.chars ++ s := by
    rw [hc, List.cons_append]
    exact dropBlanks_cons_of_not_isBlank (w.notBlank c (by simp [hc])) _
  have hname : ∀ d ∈ w.chars, isAttrNameChar d = true := fun d hd => by
    simp [isAttrNameChar, w.isName d hd]
  rw [attrName, hblank, List.takeWhile_append_of_pos hname]

/-- The name of an attribute ends where its operator starts. -/
theorem Word.attrName_append (w : Word) {s : List Char} (hs : ∀ c ∈ s.head?, IsSign c) :
    attrName (w.chars ++ s) = w.chars := by
  have hend : s.takeWhile isAttrNameChar = [] := by
    cases s with
    | nil => rfl
    | cons d rest =>
        have hd : isAttrNameChar d = false := by
          rcases hs d rfl with rfl | rfl | rfl | rfl | rfl | rfl <;> decide
        simp [hd]
  rw [w.attrName_append_eq, hend, List.append_nil]

/-! ## Pseudo-classes -/

theorem colons_eq (double : Bool) :
    colons double = ':' :: (if double then [':'] else []) := by
  cases double <;> rfl

theorem dropColon_colons (double : Bool) {name : List Char}
    (hn : ∀ c ∈ name, isNameChar c = true) (hne : name ≠ []) (s : List Char) :
    dropColon ((if double then [':'] else []) ++ (name ++ s)) = name ++ s := by
  cases double with
  | true => rfl
  | false =>
      obtain ⟨c, rest, rfl⟩ := List.exists_cons_of_ne_nil hne
      have hc := ne_of_isNameChar (x := ':') (hn c List.mem_cons_self) (by decide)
      exact dropColon.eq_2 _ (by simp [hc])

theorem startsPseudo_colons (double : Bool) {name : List Char}
    (hn : ∀ c ∈ name, isNameChar c = true) (hne : name ≠ []) (s : List Char) :
    startsPseudo ((if double then [':'] else []) ++ (name ++ s)) = true := by
  rw [startsPseudo, dropColon_colons double hn hne]
  obtain ⟨c, rest, rfl⟩ := List.exists_cons_of_ne_nil hne
  simpa using hn c List.mem_cons_self

theorem dropPseudoName_colons (double : Bool) {name : List Char}
    (hn : ∀ c ∈ name, isNameChar c = true) (hne : name ≠ []) {s : List Char}
    (hs : ∀ c ∈ s.head?, isNameChar c = false) :
    dropPseudoName ((if double then [':'] else []) ++ (name ++ s)) = s := by
  rw [dropPseudoName, dropColon_colons double hn hne, List.dropWhile_append_of_pos hn]
  cases s with
  | nil => rfl
  | cons c rest => simp [hs c rfl]

/-- A pseudo-class without an argument in front of the stages of a text. -/
theorem Passes.pseudo {t : Stages} {names : Names} (hp : Passes t names)
    (ha : IsApart t.source) (double : Bool) {name : List Char}
    (hn : ∀ c ∈ name, isNameChar c = true) (hne : name ≠ []) :
    Passes { t with source := colons double ++ (name ++ t.source) } names where
  plain := by
    have hd : dropPseudoName ((if double then [':'] else []) ++ (name ++ t.source)) = t.source := by
      exact dropPseudoName_colons double hn hne fun c hc => (ha.of_mem_head? hc).1
    have hb : (dropPseudoName ((if double then [':'] else []) ++ (name ++ t.source))).head? ≠
        some '(' := by
      rw [hd]
      exact fun hc => (ha.of_mem_head? hc).2.2 rfl
    change withoutPseudo (colons double ++ (name ++ t.source)) = _
    rw [colons_eq, List.cons_append, withoutPseudo_bare (startsPseudo_colons double hn hne _) hb,
      hd, hp.plain]
  bare := hp.bare
  unclassed := hp.unclassed
  left := hp.left
  tags := hp.tags

/-- A pseudo-class with an argument in front of the stages of a text. -/
theorem Passes.call {t : Stages} {names : Names} (hp : Passes t names) (double : Bool)
    {name argument : List Char} (hn : ∀ c ∈ name, isNameChar c = true) (hne : name ≠ [])
    (hb : Balanced '(' ')' argument) :
    Passes { t with source := colons double ++ (name ++ '(' :: (argument ++ ')' :: t.source)) }
      names where
  plain := by
    have hd : dropPseudoName ((if double then [':'] else []) ++
        (name ++ '(' :: (argument ++ ')' :: t.source))) = '(' :: (argument ++ ')' :: t.source) := by
      refine dropPseudoName_colons double hn hne ?_
      rintro c ⟨⟩
      decide
    change withoutPseudo (colons double ++ (name ++ '(' :: (argument ++ ')' :: t.source))) = _
    rw [colons_eq, List.cons_append,
      withoutPseudo_call (startsPseudo_colons double hn hne _) hd
        (hb.splitClosing?_append isPair_round _), hp.plain]
  bare := hp.bare
  unclassed := hp.unclassed
  left := hp.left
  tags := hp.tags

end Selector

end StylePrune
