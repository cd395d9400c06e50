import StylePrune.Proofs.Css.Identifier

/-!
# Identifiers as tokens

A printed identifier is one token of a stylesheet, also without the white space that ends its
last escape, in front of a dot or of a block.
-/

namespace StylePrune

namespace Css

open Text
open Selector (Letter Spelling EndBefore printLetters printLetters_cons printLetters_append
  printLetters_singleton endBefore_snoc_iff)

namespace Lexer

/-! ## Where a name starts -/

theorem ne_of_isNameStart {c x : Char} (h : isNameStart c = true) (hx : isNameStart x = false) :
    c ≠ x := by
  rintro rfl
  rw [h] at hx
  cases hx

theorem isDigit_of_isNameStart {c : Char} (h : isNameStart c = true) : c.isDigit = false := by
  rw [← Bool.not_eq_true]
  intro hd
  have hall : ∀ n < 128, (Char.ofNat n).isDigit = true → isNameStart (Char.ofNat n) = false := by
    decide
  have hc := hall c.toNat (toNat_lt_of_isDigit hd)
  rw [Char.ofNat_toNat, h] at hc
  cases hc hd

/-- How the text of an identifier starts. -/
inductive StartsIdent : List Char → Prop
  | letter {c : Char} {s : List Char} (hc : isNameStart c = true) : StartsIdent (c :: s)
  | escape {c : Char} {s : List Char} (hc : isNewline c = false) : StartsIdent ('\\' :: c :: s)
  | hyphen {s : List Char} (hs : StartsIdent s) : StartsIdent ('-' :: s)
  | dashes {c : Char} {s : List Char} (hc : c ≠ '>') : StartsIdent ('-' :: '-' :: c :: s)

namespace StartsIdent

theorem head {c : Char} {s : List Char} (h : StartsIdent (c :: s)) :
    c = '-' ∨ c = '\\' ∨ isNameStart c = true := by
  cases h with
  | letter hc => exact .inr (.inr hc)
  | escape => exact .inr (.inl rfl)
  | hyphen | dashes => exact .inl rfl

theorem ne {c x : Char} {s : List Char} (h : StartsIdent (c :: s))
    (hx : isNamePart x = false ∧ x ≠ '\\') : c ≠ x := by
  rintro rfl
  rcases h.head with rfl | rfl | hc
  · cases hx.1
  · exact hx.2 rfl
  · rw [isNamePart, hc] at hx
    cases hx.1

theorem exists_eq_cons {s : List Char} (h : StartsIdent s) : ∃ c t, s = c :: t := by
  cases h <;> exact ⟨_, _, rfl⟩

theorem startsName {s : List Char} (h : StartsIdent s) : startsName s = true := by
  cases h with
  | letter hc =>
      rw [Lexer.startsName.eq_3 _ _ fun _ _ h _ => ne_of_isNameStart hc (by decide) h]
      · exact hc
      · exact ne_of_isNameStart hc (by decide)
  | escape hc => simp [Lexer.startsName, escapes, hc]
  | @hyphen s hs =>
      obtain ⟨c, t, rfl⟩ := hs.exists_eq_cons
      cases hs with
      | letter hc => simp [Lexer.startsName, hc]
      | escape hc => simp [Lexer.startsName, escapes, hc]
      | hyphen | dashes => rfl
  | dashes => rfl

theorem startsDigit {s : List Char} (h : StartsIdent s) : startsDigit s = false := by
  obtain ⟨c, t, rfl⟩ := h.exists_eq_cons
  rcases h.head with rfl | rfl | hc
  · rfl
  · rfl
  · exact isDigit_of_isNameStart hc

/-- Behind a hyphen the text of an identifier starts once more, or there is another hyphen. -/
theorem behind_hyphen {s : List Char} (h : StartsIdent ('-' :: s)) :
    StartsIdent s ∨ ∃ c t, s = '-' :: c :: t ∧ c ≠ '>' := by
  cases h with
  | letter hc => cases hc
  | hyphen hs => exact .inl hs
  | dashes hc => exact .inr ⟨_, _, rfl, hc⟩

theorem startsNumber {s : List Char} (h : StartsIdent s) : startsNumber s = false := by
  fun_cases Lexer.startsNumber s with
  | case1 => exact absurd rfl (h.ne (by decide))
  | case2 rest =>
      rcases h.behind_hyphen with h | ⟨c, t, heq, -⟩
      · exact absurd rfl (h.ne (by decide))
      · cases heq
  | case3 => exact absurd rfl (h.ne (by decide))
  | case4 rest =>
      rcases h.behind_hyphen with h | ⟨c, t, rfl, -⟩
      · exact h.startsDigit
      · rfl
  | case5 => exact absurd rfl (h.ne (by decide))
  | case6 => exact h.startsDigit

theorem not_arrow {s : List Char} (h : StartsIdent ('-' :: s)) :
    ['-', '>'].isPrefixOf s = false := by
  rcases h.behind_hyphen with h | ⟨c, t, rfl, hc⟩
  · obtain ⟨c, t, rfl⟩ := h.exists_eq_cons
    by_cases hc : c = '-'
    · subst hc
      rcases h.behind_hyphen with h | ⟨d, u, rfl, -⟩
      · obtain ⟨d, u, rfl⟩ := h.exists_eq_cons
        simp [List.isPrefixOf, (h.ne (x := '>') (by decide)).symm]
      · rfl
    · simp [List.isPrefixOf, Ne.symm hc]
  · simp [List.isPrefixOf, hc.symm]

theorem isSpace {c : Char} {s : List Char} (h : StartsIdent (c :: s)) : isSpace c = false := by
  simp [Lexer.isSpace, isNewline, h.ne (x := ' ') (by decide), h.ne (x := '\t') (by decide),
    h.ne (x := '\n') (by decide), h.ne (x := '\r') (by decide), h.ne (x := '\x0c') (by decide)]

end StartsIdent

/-- Where the text of an identifier starts, a name is read. -/
theorem token_of_startsIdent {c : Char} {s : List Char} (h : StartsIdent (c :: s)) :
    token c s = nameLike (c :: s) := by
  have harrow : ¬(c = '-' ∧ ['-', '>'].isPrefixOf s = true) := by
    rintro ⟨rfl, hs⟩
    rw [h.not_arrow] at hs
    cases hs
  rw [token, if_neg (by simp [h.isSpace]),
    if_neg (not_or.mpr ⟨h.ne (by decide), h.ne (by decide)⟩), if_neg (h.ne (by decide)),
    if_neg (h.ne (by decide)), if_neg fun hc => h.ne (by decide) hc.1,
    if_neg fun hc => h.ne (by decide) hc.1, if_neg (by simp [h.startsNumber]), if_neg harrow,
    if_pos h.startsName]

/-! ## Printed names -/

/-- The letters start like those of an identifier. -/
inductive LeadsIdent : List Letter → Prop
  | letter {l : Letter} {ls : List Letter} (hl : ∀ s, StartsIdent (l.print ++ s)) :
      LeadsIdent (l :: ls)
  | hyphen {l : Letter} {ls : List Letter} (hl : ∀ s, StartsIdent (l.print ++ s)) :
      LeadsIdent (.plain '-' :: l :: ls)
  | dashes {ls : List Letter} : LeadsIdent (.plain '-' :: .plain '-' :: ls)

theorem startsIdent_escaped (c : Char) (hhex hline hnul) (s : List Char) :
    StartsIdent ((Letter.escaped c hhex hline hnul).print ++ s) :=
  .escape hline

theorem isNewline_of_isHexDigit {c : Char} (h : isHexDigit c = true) : isNewline c = false := by
  rw [← Bool.not_eq_true]
  intro hline
  simp only [isNewline, Bool.or_eq_true, beq_iff_eq] at hline
  rcases hline with (rfl | rfl) | rfl <;> cases h

theorem startsIdent_coded (digits hd gap) (s : List Char) :
    StartsIdent ((Letter.coded digits hd gap).print ++ s) := by
  obtain ⟨d, ds, rfl⟩ := List.exists_cons_of_ne_nil hd.ne_nil
  exact .escape (isNewline_of_isHexDigit (hd.isHexDigit d List.mem_cons_self))

theorem startsIdent_withoutGap {l : Letter} (h : ∀ s, StartsIdent (l.print ++ s)) (s : List Char) :
    StartsIdent (l.withoutGap.print ++ s) := by
  cases l with
  | plain | escaped => exact h s
  | coded digits hd gap => exact startsIdent_coded digits hd none s

theorem LeadsIdent.withoutGap {front : List Letter} {l : Letter}
    (h : LeadsIdent (front ++ [l])) : LeadsIdent (front ++ [l.withoutGap]) := by
  cases front with
  | nil =>
      cases h with
      | letter hl => exact .letter (startsIdent_withoutGap hl)
  | cons a rest =>
      cases rest with
      | nil =>
          cases h with
          | letter hl => exact .letter hl
          | hyphen hl => exact .hyphen (startsIdent_withoutGap hl)
          | dashes => exact .dashes
      | cons b rest =>
          cases h with
          | letter hl => exact .letter hl
          | hyphen hl => exact .hyphen hl
          | dashes => exact .dashes

theorem LeadsIdent.startsIdent {ls : List Letter} (h : LeadsIdent ls) {c : Char} (hc : c ≠ '>')
    (s : List Char) : StartsIdent (printLetters ls ++ c :: s) := by
  cases h with
  | letter hl =>
      rw [printLetters_cons, List.append_assoc]
      exact hl _
  | hyphen hl =>
      rw [printLetters_cons, printLetters_cons, List.append_assoc, List.append_assoc]
      exact .hyphen (hl _)
  | @dashes ls =>
      rw [printLetters_cons, printLetters_cons, List.append_assoc, List.append_assoc]
      cases ls with
      | nil => exact .dashes hc
      | cons l ls =>
          rw [printLetters_cons, List.append_assoc]
          cases l with
          | plain d hd => exact .dashes (Selector.ne_of_isNameChar hd (by decide))
          | escaped | coded => exact .dashes (by decide)

theorem startsIdent_innerLetter {c : Char} (hdigit : c.isDigit = false) (hhyphen : c ≠ '-')
    (s : List Char) : StartsIdent ((innerLetter c).print ++ s) := by
  unfold innerLetter
  split
  · rename_i hname
    have hpart := (Selector.isNamePart_of_isNameChar hname).1
    refine .letter ?_
    simpa [isNamePart, hdigit, hhyphen] using hpart
  · split
    · exact .letter (by decide)
    · split
      · exact startsIdent_coded _ _ _ s
      · exact startsIdent_escaped c _ _ _ s

theorem exists_leadLetters {c : Char} (hc : c ≠ '-') (s : List Char) :
    ∃ l ls, leadLetters (c :: s) = l :: ls ∧ ∀ t, StartsIdent (l.print ++ t) := by
  rw [leadLetters]
  split
  · exact ⟨_, _, rfl, startsIdent_coded _ _ _⟩
  · rename_i hdigit
    exact ⟨_, _, rfl, startsIdent_innerLetter (by simpa using hdigit) hc⟩

/-- The letters of a name start an identifier. -/
theorem leadsIdent_nameLetters {s : List Char} (hs : s ≠ []) : LeadsIdent (nameLetters s) := by
  fun_cases nameLetters s with
  | case1 rest => exact .dashes
  | case2 => exact .letter fun t => .escape rfl
  | case3 rest h1 h2 =>
      obtain ⟨c, t, rfl⟩ := List.exists_cons_of_ne_nil (l := rest) h2
      have hc : c ≠ '-' := by
        rintro rfl
        exact h1 t rfl
      obtain ⟨l, ls, heq, hl⟩ := exists_leadLetters hc t
      rw [heq]
      exact .hyphen hl
  | case4 s h1 h2 h3 =>
      obtain ⟨c, t, rfl⟩ := List.exists_cons_of_ne_nil hs
      have hc : c ≠ '-' := by
        rintro rfl
        exact h3 t rfl
      obtain ⟨l, ls, heq, hl⟩ := exists_leadLetters hc t
      rw [heq]
      exact .letter hl

/-- A name that is written as it may be is a token, in front of what cannot be part of it. -/
theorem token_spelling {n : Spelling} (hlead : LeadsIdent n.letters) {d : Char} {t : List Char}
    (hlegal : n.IsLegal (d :: t)) (hd : isNamePart d = false ∧ d ∉ ['\\', '>', '('])
    {c : Char} {s : List Char} (h : n.print ++ d :: t = c :: s) :
    token c s = (.ident (String.ofList n.name), n.print.length) := by
  simp only [List.mem_cons, List.not_mem_nil, or_false, not_or] at hd
  have hstarts := hlead.startsIdent hd.2.2.1 t
  have hname : name (c :: s) = (String.ofList n.name, n.print.length) := by
    rw [← h]
    refine hlegal.name_append ?_
    rintro e ⟨⟩
    exact ⟨hd.1, hd.2.1⟩
  have hrest : (c :: s).drop n.print.length = d :: t := by
    rw [← h, List.drop_left]
  rw [token_of_startsIdent (h ▸ hstarts), nameLike, hname]
  dsimp only
  rw [hrest]
  split
  · rename_i heq
    cases heq
    exact absurd rfl hd.2.2.2
  · rfl

theorem endBefore_of_forall {p : Option Char → Letter → Prop} {ls : List Letter}
    (h : ∀ l ∈ ls, ∀ next, p next l) (s : List Char) : EndBefore p ls s := by
  induction ls with
  | nil => trivial
  | cons l rest ih =>
      obtain ⟨hl, hrest⟩ := List.forall_mem_cons.mp h
      exact ⟨hl _, ih hrest⟩

theorem endsBefore_withoutGap {l : Letter} {d : Char} (hhex : isHexDigit d = false)
    (hspace : isSpace d = false) : l.withoutGap.EndsBefore (some d) := by
  cases l with
  | plain | escaped => trivial
  | coded =>
      rintro c ⟨⟩
      exact ⟨hhex, hspace⟩

/-- A name that a stylesheet can have: it is not empty and has no NUL. -/
def IsName (s : String) : Prop :=
  s ≠ "" ∧ ∀ c ∈ s.toList, c.toNat ≠ 0

theorem map_visible {s : List Char} (h : ∀ c ∈ s, c.toNat ≠ 0) : s.map visible = s :=
  (List.map_congr_left fun c hc => Selector.visible_of_ne_zero (h c hc)).trans (List.map_id s)

/-- The character ends a part of the name of a layer: another part follows, or the block. -/
def EndsPart (d : Char) : Prop :=
  d = '.' ∨ d = '\x7b'

/-- In front of what ends a part of a name, the text is an identifier with this name. -/
structure IsIdent (u : List Char) (name : String) : Prop where
  starts : ∀ {d t}, EndsPart d → StartsIdent (u ++ d :: t)
  token : ∀ {d t c s}, EndsPart d → u ++ d :: t = c :: s →
    token c s = (.ident name, u.length)

theorem isIdent_print {n : Spelling} (hlead : LeadsIdent n.letters)
    (hlegal : ∀ d t, EndsPart d → n.IsLegal (d :: t)) :
    IsIdent n.print (String.ofList n.name) where
  starts {d t} hd := by
    refine hlead.startsIdent ?_ t
    rcases hd with rfl | rfl <;> decide
  token {d t c s} hd heq := by
    refine token_spelling hlead (hlegal d t hd) ?_ heq
    rcases hd with rfl | rfl <;> decide

/-- An identifier is read as its name, with the white space at its end or without. -/
theorem isIdent_identText {name : String} (h : IsName name) :
    IsIdent (identText name).toList name ∧
      IsIdent (trimUnescaped (identText name).toList) name := by
  have hne : name.toList ≠ [] := fun hnil => h.1 (String.toList_eq_nil_iff.mp hnil)
  have hwrites := forall_writes_nameLetters name.toList
  have hlead := leadsIdent_nameLetters hne
  have hprint := printLetters_nameLetters name.toList
  have hends := endsBefore_of_writes hwrites
  have hchars := map_char_of_writes hwrites
  rw [map_visible h.2] at hchars
  rcases List.eq_nil_or_concat (nameLetters name.toList) with hnil | ⟨init, l, hls⟩
  · rw [hnil] at hlead
    cases hlead
  rw [List.concat_eq_append] at hls
  rw [hls] at hlead hprint hends hchars
  have htext : (identText name).toList = printLetters init ++ l.print := by
    rw [identText, String.toList_ofList, ← hprint, printLetters_append, printLetters_singleton]
  constructor
  · have hread := isIdent_print (n := ⟨init, l⟩) hlead fun d t _ => endBefore_of_forall hends _
    have hname : (⟨init, l⟩ : Spelling).name = name.toList := hchars
    rw [Spelling.print, Spelling.letters, printLetters_append, printLetters_singleton, ← htext,
      hname, String.ofList_toList] at hread
    exact hread
  · have hlegal : ∀ d t, EndsPart d →
        (⟨init, l.withoutGap⟩ : Spelling).IsLegal (d :: t) := by
      intro d t hd
      have hinit : EndBefore Letter.EndsBefore init l.withoutGap.print :=
        endBefore_of_forall (fun m hm => hends m (List.mem_append_left _ hm)) _
      refine endBefore_snoc_iff.mpr ⟨hinit, ?_⟩
      rcases hd with rfl | rfl <;> exact endsBefore_withoutGap (by decide) (by decide)
    have hread := isIdent_print (n := ⟨init, l.withoutGap⟩) hlead.withoutGap hlegal
    have hname : (⟨init, l.withoutGap⟩ : Spelling).name = name.toList := by
      rw [Spelling.name, Spelling.letters, List.map_append, List.map_singleton,
        l.withoutGap_char, ← List.map_singleton, ← List.map_append, hchars]
    rw [Spelling.print, Spelling.letters, printLetters_append, printLetters_singleton,
      ← (units_printLetters init).trimUnescaped_append_letter, ← htext, hname,
      String.ofList_toList] at hread
    exact hread

/-! ## Tokens of a text -/

/-- The text consists of these tokens. -/
def Lexes (s : List Char) (xs : List Lexeme) : Prop :=
  ∀ fuel, s.length ≤ fuel → tokensWithin fuel s = xs

theorem Lexes.tokens_eq {s : List Char} {xs : List Lexeme} (h : Lexes s xs) : tokens s = xs :=
  h s.length le_rfl

theorem Lexes.nil : Lexes [] [] := by
  intro fuel _
  cases fuel <;> rfl

theorem Lexes.cons {c : Char} {s u t : List Char} {kind : Token} {xs : List Lexeme}
    (hne : u ≠ []) (heq : c :: s = u ++ t) (hread : token c s = (kind, u.length))
    (h : Lexes t xs) : Lexes (c :: s) (⟨kind, u⟩ :: xs) := by
  intro fuel hfuel
  have hlength := List.length_pos_of_ne_nil hne
  have htotal := congrArg List.length heq
  rw [List.length_append] at htotal
  cases fuel with
  | zero => simp at hfuel
  | succ fuel =>
      rw [tokensWithin, hread, heq]
      dsimp only
      rw [List.take_left, List.drop_left, h fuel (by omega)]

theorem Lexes.char {c : Char} {s : List Char} {kind : Token} {xs : List Lexeme}
    (hread : token c s = (kind, 1)) (h : Lexes s xs) : Lexes (c :: s) (⟨kind, [c]⟩ :: xs) :=
  .cons (u := [c]) (List.cons_ne_nil c []) rfl hread h

theorem IsIdent.ne_nil {u : List Char} {name : String} (h : IsIdent u name) : u ≠ [] := by
  rintro rfl
  have hstarts := h.starts (d := '.') (t := []) (.inl rfl)
  exact hstarts.ne (x := '.') (by decide) rfl

theorem IsIdent.lexes {u : List Char} {name : String} (h : IsIdent u name) {d : Char}
    (hd : EndsPart d) {t : List Char} {xs : List Lexeme} (ht : Lexes (d :: t) xs) :
    Lexes (u ++ d :: t) (⟨.ident name, u⟩ :: xs) := by
  obtain ⟨c, s, heq⟩ := (h.starts (t := t) hd).exists_eq_cons
  rw [heq]
  exact .cons h.ne_nil heq.symm (h.token hd heq) ht

theorem token_dot {s : List Char} (h : StartsIdent s) : token '.' s = (.delim '.', 1) := by
  have hnumber : startsNumber ('.' :: s) = false := h.startsDigit
  rw [token, if_neg (by decide), if_neg (by decide), if_neg (by decide), if_neg (by decide),
    if_neg (by simp), if_neg (by simp), if_neg (by simp [hnumber]), if_neg (by simp),
    if_neg (by simp [startsName, show isNameStart '.' = false from rfl]),
    if_neg (by simp [isMatchStart])]
  rfl

theorem token_space {s : List Char} (h : StartsIdent s) : token ' ' s = (.space, 1) := by
  obtain ⟨c, t, rfl⟩ := h.exists_eq_cons
  rw [token, if_pos (show isSpace ' ' = true from rfl),
    List.takeWhile_cons_of_neg (by simp [h.isSpace])]
  rfl

end Lexer

end Css

end StylePrune
