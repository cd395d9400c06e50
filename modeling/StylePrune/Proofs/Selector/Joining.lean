import StylePrune.Proofs.Selector.Pseudo
import StylePrune.Proofs.Selector.Written

/-!
# Texts joined by a combinator

What the passes make of a text, they make of it in front of a combinator too, whatever the text
is: what opens in it closes in it, and nothing in it goes beyond the combinator.  Only the space
in front of the sign can go, as the end of a hexadecimal escape, and then it goes in one of the
passes for classes and for ids and not in the others.
-/

namespace StylePrune

namespace Selector

open Text

/-- A text that does not end in a backslash has none left alone at its end. -/
theorem avoids_slash {s : List Char} (h : s.getLast? ≠ some '\\') : Avoids '\\' s := by
  induction s using token_induction with
  | nil => exact .nil
  | slash => exact absurd rfl h
  | escape c s ih => exact .escape c (ih fun hs => h (by simp [List.getLast?_cons, hs]))
  | char c s hc ih => exact .cons hc hc (ih fun hs => h (by simp [List.getLast?_cons, hs]))

/-! ## Attribute selectors -/

/-- An attribute selector that closes in a text closes there whatever follows. -/
theorem takeAttributes_append_of_eq_ok {x : Char} {u left : List Char} {names : List (List Char)}
    (h : Avoids x u) (hu : takeAttributes u = .ok (names, left)) :
    Avoids x left ∧ ∀ s, takeAttributes (u ++ s) =
      (takeAttributes s).map fun r => (names ++ r.1, left ++ r.2) := by
  fun_induction takeAttributes u generalizing names left with
  | case1 =>
      cases hu
      refine ⟨.nil, fun s => ?_⟩
      cases hs : takeAttributes s <;> simp [hs, Except.map]
  | case2 =>
      cases h with
      | cons hslash => exact absurd rfl hslash
  | case3 c rest ih =>
      obtain ⟨r, hrest, hr⟩ := exists_of_bind_eq_ok hu
      cases hr
      cases h with
      | escape _ hs =>
          obtain ⟨havoids, heq⟩ := ih hs hrest
          refine ⟨.escape c havoids, fun s => ?_⟩
          rw [List.cons_append, List.cons_append, takeAttributes_escape, heq]
          cases takeAttributes s <;> rfl
      | cons hslash => exact absurd rfl hslash
  | case4 => cases hu
  | case5 => cases hu
  | case6 rest inside after hclose hname _ _ ih =>
      obtain ⟨r, hafter, hr⟩ := exists_of_bind_eq_ok hu
      cases hr
      obtain ⟨havoids, heq⟩ := ih ((h.of_cons (by decide)).of_splitClosing? hclose) hafter
      refine ⟨havoids, fun s => ?_⟩
      rw [List.cons_append,
        takeAttributes_bracket (splitClosing?_append_of_eq_some hclose s) hname, heq]
      cases takeAttributes s <;> rfl
  | case7 c rest hlast hmore hc ih =>
      obtain ⟨r, hrest, hr⟩ := exists_of_bind_eq_ok hu
      cases hr
      cases h with
      | escape d => exact (hmore _ _ rfl rfl).elim
      | cons hslash hx hs =>
          obtain ⟨havoids, heq⟩ := ih hs hrest
          refine ⟨.cons hslash hx havoids, fun s => ?_⟩
          rw [List.cons_append, takeAttributes_cons hslash hc, heq]
          cases takeAttributes s <;> rfl

/-! ## Names -/

theorem escapeDigits_append_of_head? {w : List Char} (hw : ∀ d ∈ w.head?, isHexDigit d = false)
    (u : List Char) : escapeDigits (u ++ w) = escapeDigits u := by
  have hrest : (w.take (6 - u.length)).takeWhile isHexDigit = [] := by
    cases w with
    | nil => simp
    | cons d rest =>
        have hd := hw d rfl
        cases 6 - u.length <;> simp [hd]
  rw [escapeDigits, escapeDigits, List.take_append, List.takeWhile_append, hrest]
  split
  · rename_i hall
    rw [List.append_nil, (List.takeWhile_prefix _).eq_of_length hall]
  · rfl

/-- Where no digit follows, an escape takes at most a blank of what follows. -/
theorem readEscape?_append {u t w : List Char} {c : Char} (h : readEscape? u = some (c, t))
    (hw : ∀ d ∈ w.head?, isHexDigit d = false) :
    readEscape? (u ++ w) = some (c, t ++ w) ∨
      t = [] ∧ readEscape? (u ++ w) = some (c, dropOneBlank w) := by
  cases u with
  | nil => cases h
  | cons a rest =>
      have hdigits := escapeDigits_append_of_head? hw (a :: rest)
      rw [readEscape?] at h
      rw [List.cons_append] at hdigits ⊢
      rw [readEscape?, hdigits]
      cases hd : escapeDigits (a :: rest) with
      | nil =>
          rw [hd] at h
          cases h
          exact .inl rfl
      | cons d digits =>
          have hlength : digits.length ≤ rest.length := by
            have hle : (escapeDigits (a :: rest)).length ≤ (a :: rest).length :=
              ((List.takeWhile_sublist _).trans (List.take_sublist _ _)).length_le
            simpa [hd] using hle
          rw [hd] at h
          cases h
          dsimp only
          rw [List.drop_append_of_le_length hlength]
          cases rest.drop digits.length with
          | nil => exact .inr ⟨rfl, rfl⟩
          | cons b tail =>
              refine .inl ?_
              rw [List.cons_append, dropOneBlank, dropOneBlank]
              split <;> rfl

/-- What is left of the space in front of a sign: all of it or nothing. -/
def IsGap (b : List Char) : Prop :=
  b = [] ∨ b = [' ']

variable {k : Sign} {b u : List Char}

theorem IsGap.isApart (hb : IsGap b) (s : List Char) : IsApart (b ++ k.char :: s) := by
  rcases hb with rfl | rfl
  · cases k <;> exact isApart_cons (by decide) s
  · exact isApart_cons (by decide) _

theorem IsGap.dropOneBlank (hb : IsGap b) (s : List Char) :
    Selector.dropOneBlank (b ++ k.char :: s) = k.char :: s := by
  rcases hb with rfl | rfl <;> cases k <;> rfl

theorem Avoids.of_append {x : Char} {v s : List Char} (hv : ∀ c ∈ v, c ≠ '\\')
    (h : Avoids x (v ++ s)) : Avoids x s := by
  induction v with
  | nil => exact h
  | cons c rest ih =>
      exact ih (fun d hd => hv d (List.mem_cons_of_mem c hd))
        (h.of_cons (hv c List.mem_cons_self))

/-- An escape is cut by nothing that starts behind it. -/
theorem Avoids.of_readEscape? {x c : Char} {t : List Char} (h : Avoids x ('\\' :: u))
    (hu : readEscape? u = some (c, t)) : Avoids x t := by
  cases h with
  | cons hslash => exact absurd rfl hslash
  | @escape a rest hrest =>
      rw [readEscape?] at hu
      cases hd : escapeDigits (a :: rest) with
      | nil =>
          rw [hd] at hu
          cases hu
          exact hrest
      | cons d digits =>
          rw [hd] at hu
          cases hu
          have hprefix : d :: digits <+: a :: rest :=
            hd ▸ (List.takeWhile_prefix _).trans (List.take_prefix _ _)
          have hhex : ∀ e ∈ d :: digits, isHexDigit e = true :=
            hd ▸ fun e he => List.all_eq_true.mp List.all_takeWhile e he
          obtain ⟨rfl, v, rfl⟩ := List.cons_prefix_cons.mp hprefix
          have hv : Avoids x v := hrest.of_append fun e he =>
            ne_of_isNameChar (isNameChar_of_isHexDigit (hhex e (List.mem_cons_of_mem d he)))
              (by decide)
          rw [List.drop_left]
          cases v with
          | nil => exact hv
          | cons e v =>
              rw [Selector.dropOneBlank]
              split
              · rename_i hblank
                exact hv.of_cons (ne_of_isBlank hblank (by decide))
              · exact hv

/-- A name at the start of a text is read in front of a sign as it is read alone. -/
theorem readName_append_sign {x : Char} (h : Avoids x u) (hb : IsGap b) (s : List Char) :
    Avoids x (readName u).2 ∧ ∃ gap, IsGap gap ∧ readName (u ++ (b ++ k.char :: s)) =
      ((readName u).1, (readName u).2 ++ (gap ++ k.char :: s)) := by
  fun_induction readName u with
  | case1 => exact ⟨.nil, b, hb, readName_of_isApart (hb.isApart s)⟩
  | case2 c rest hc r ih =>
      obtain ⟨havoids, gap, hgap, heq⟩ := ih (h.of_cons (ne_of_isNameChar hc (by decide)))
      refine ⟨havoids, gap, hgap, ?_⟩
      rw [List.cons_append, readName_cons hc, heq]
  | case3 rest hnone =>
      cases rest with
      | nil =>
          cases h with
          | cons hslash => exact absurd rfl hslash
      | cons a rest =>
          rw [readEscape?] at hnone
          split at hnone <;> cases hnone
  | case4 rest c tail hescape r hslash ih =>
      obtain ⟨havoids, gap, hgap, heq⟩ := ih (h.of_readEscape? hescape)
      refine ⟨havoids, ?_⟩
      have hhex : ∀ d ∈ (b ++ k.char :: s).head?, isHexDigit d = false := by
        intro d hd
        have hname := ((hb.isApart s).of_mem_head? hd).1
        rw [← Bool.not_eq_true] at hname ⊢
        exact fun hd => hname (isNameChar_of_isHexDigit hd)
      rcases readEscape?_append hescape hhex with hread | ⟨rfl, hread⟩
      · exact ⟨gap, hgap, by rw [List.cons_append, readName_escape hread, heq]⟩
      · -- The escape ends the text, so it takes the space.
        refine ⟨[], .inl rfl, ?_⟩
        have hsign : readName (k.char :: s) = ([], k.char :: s) :=
          readName_of_isApart (IsGap.isApart (.inl rfl) s)
        rw [List.cons_append, readName_escape hread, hb.dropOneBlank, hsign]
        simp [r, readName]
  | case5 c rest hname hslash =>
      refine ⟨h, b, hb, ?_⟩
      rw [List.cons_append, readName, if_neg hname, if_neg hslash]

/-! ## Classes and ids -/

/-- A character that starts the names of one kind. -/
structure IsSigil (sigil : Char) : Prop where
  ne_slash : sigil ≠ '\\'
  ne_space : ' ' ≠ sigil
  ne_sign : ∀ k : Sign, k.char ≠ sigil

theorem isSigil_dot : IsSigil '.' := ⟨by decide, by decide, fun k => by cases k <;> decide⟩

theorem isSigil_hash : IsSigil '#' := ⟨by decide, by decide, fun k => by cases k <;> decide⟩

theorem Sign.char_ne_slash (k : Sign) : k.char ≠ '\\' := by
  cases k <;> decide

theorem IsGap.takePrefixed (hb : IsGap b) {sigil : Char} (hs : IsSigil sigil) (s : List Char) :
    Selector.takePrefixed sigil (b ++ k.char :: s) =
      ((Selector.takePrefixed sigil s).1, b ++ k.char :: (Selector.takePrefixed sigil s).2) := by
  have hsign := takePrefixed_cons k.char_ne_slash (hs.ne_sign k) s
  rcases hb with rfl | rfl
  · exact hsign
  · rw [List.cons_append, List.nil_append, takePrefixed_cons (by decide) hs.ne_space, hsign]
    rfl

/-- Without a name behind it a sigil is copied. -/
theorem takePrefixed_sigil_of_eq_nil {sigil : Char} {s : List Char} (hc : sigil ≠ '\\')
    (h : (readName s).1 = []) :
    takePrefixed sigil (sigil :: s) =
      ((takePrefixed sigil s).1, sigil :: (takePrefixed sigil s).2) := by
  rw [takePrefixed.eq_4 sigil sigil s (by simp [hc]) (by simp [hc]), if_pos rfl, dif_pos h]

/-- The names of one kind in a text are taken in front of a sign as they are taken alone. -/
theorem takePrefixed_append_sign {x sigil : Char} (hs : IsSigil sigil) (h : Avoids x u)
    (hb : IsGap b) (s : List Char) :
    Avoids x (takePrefixed sigil u).2 ∧ ∃ gap, IsGap gap ∧
      takePrefixed sigil (u ++ (b ++ k.char :: s)) =
        ((takePrefixed sigil u).1 ++ (takePrefixed sigil s).1,
          (takePrefixed sigil u).2 ++ (gap ++ k.char :: (takePrefixed sigil s).2)) := by
  fun_induction takePrefixed sigil u generalizing b with
  | case1 => exact ⟨.nil, b, hb, hb.takePrefixed hs s⟩
  | case2 =>
      cases h with
      | cons hslash => exact absurd rfl hslash
  | case3 c rest =>
      rename_i ih
      cases h with
      | cons hslash => exact absurd rfl hslash
      | escape _ hrest =>
          obtain ⟨havoids, gap, hgap, heq⟩ := ih hrest hb
          refine ⟨.escape c havoids, gap, hgap, ?_⟩
          rw [List.cons_append, List.cons_append, takePrefixed_escape, heq]
          rfl
  | case4 rest hname =>
      rename_i ih
      cases h with
      | escape => exact absurd rfl hs.ne_slash
      | cons hslash hx hrest =>
          obtain ⟨havoids, gap, hgap, heq⟩ := ih hrest hb
          obtain ⟨-, _, -, hread⟩ := readName_append_sign (k := k) hrest hb s
          refine ⟨.cons hslash hx havoids, gap, hgap, ?_⟩
          rw [List.cons_append, takePrefixed_sigil_of_eq_nil hs.ne_slash (by rw [hread, hname]),
            heq]
          rfl
  | case5 rest hname =>
      rename_i ih
      have hrest := h.of_cons hs.ne_slash
      obtain ⟨hleft, gap, hgap, hread⟩ := readName_append_sign (k := k) hrest hb s
      obtain ⟨havoids, gap', hgap', heq⟩ := ih hleft hgap
      refine ⟨havoids, gap', hgap', ?_⟩
      rw [List.cons_append, takePrefixed_sigil hs.ne_slash (by rwa [hread]), hread, heq]
      rfl
  | case6 c rest =>
      rename_i hmore hc _ ih
      cases h with
      | escape d => exact (hmore _ _ rfl rfl).elim
      | cons hslash hx hrest =>
          obtain ⟨havoids, gap, hgap, heq⟩ := ih hrest hb
          refine ⟨.cons hslash hx havoids, gap, hgap, ?_⟩
          rw [List.cons_append, takePrefixed_cons hslash hc, heq]
          rfl

/-! ## All passes -/

/-- What the passes behind those for pseudo-classes and attribute selectors list. -/
def Names.ofBare (attrs : List (List Char)) (s : List Char) : Names where
  classes := (takePrefixed '.' s).1
  ids := (takePrefixed '#' (takePrefixed '.' s).2).1
  tags := tagRuns [] (takePrefixed '#' (takePrefixed '.' s).2).2
  attrs := attrs

theorem namesOf_eq (s : List Char) :
    namesOf s = (withoutPseudo s).bind fun plain =>
      (takeAttributes plain).map fun r => .ofBare r.1 r.2 := by
  rw [namesOf]
  cases withoutPseudo s with
  | error fault => rfl
  | ok plain =>
      simp only [bind, Except.bind]
      cases takeAttributes plain <;> rfl

def Sign.before (k : Sign) (s : List Char) : List Char :=
  ' ' :: k.char :: ' ' :: s

theorem tagRuns_mark {c : Char} (hc : isNameChar c = false) (hslash : c ≠ '\\') (s : List Char) :
    tagRuns [] (c :: s) = tagRuns [] s := by
  simp [tagRuns_cons hslash, hc]

theorem IsGap.tagRuns (hb : IsGap b) (s : List Char) :
    Selector.tagRuns [] (b ++ k.char :: ' ' :: s) = Selector.tagRuns [] s := by
  have hsign : Selector.tagRuns [] (k.char :: ' ' :: s) = Selector.tagRuns [] s := by
    rw [tagRuns_mark (by cases k <;> decide) k.char_ne_slash, tagRuns_mark (by decide) (by decide)]
  rcases hb with rfl | rfl
  · exact hsign
  · rw [List.cons_append, tagRuns_mark (by decide) (by decide)]
    exact hsign

theorem Names.ofBare_append_sign {x : Char} (h : Avoids x u) (m n : List (List Char))
    (s : List Char) : ofBare (m ++ n) (u ++ k.before s) = (ofBare m u).append (ofBare n s) := by
  -- The two passes may leave different parts of the space.
  obtain ⟨hclass, gap, hgap, hclasses⟩ :=
    takePrefixed_append_sign (k := k) isSigil_dot h (.inr rfl) (' ' :: s)
  obtain ⟨hid, gap', hgap', hids⟩ :=
    takePrefixed_append_sign (k := k) isSigil_hash hclass hgap (' ' :: (takePrefixed '.' s).2)
  rw [takePrefixed_cons (by decide) (by decide)] at hclasses hids
  have hapart := hgap'.isApart (k := k) (' ' :: (takePrefixed '#' (takePrefixed '.' s).2).2)
  have htags := tagRuns_append hid hapart []
  rw [hgap'.tagRuns] at htags
  change takePrefixed '.' (u ++ k.before s) = _ at hclasses
  simp only [ofBare, hclasses, hids, htags, append]

/-- No character of a sign between spaces is part of anything for the first two passes. -/
theorem Sign.avoids_before (k : Sign) {x : Char} (hx : x ∈ [':', '[']) :
    Avoids x [' ', k.char, ' '] := by
  have hmark : x ≠ ' ' ∧ x ≠ k.char := by
    obtain rfl | rfl : x = ':' ∨ x = '[' := by simpa using hx
    all_goals cases k <;> decide
  refine .of_forall (List.forall_mem_cons.mpr ⟨⟨by decide, hmark.1.symm⟩, ?_⟩)
  refine List.forall_mem_cons.mpr ⟨⟨k.char_ne_slash, hmark.2.symm⟩, ?_⟩
  exact List.forall_mem_singleton.mpr ⟨by decide, hmark.1.symm⟩

theorem withoutPseudo_before (k : Sign) (s : List Char) :
    withoutPseudo (k.before s) = (withoutPseudo s).map k.before :=
  withoutPseudo_append (k.avoids_before (by simp)) s

theorem takeAttributes_before (k : Sign) (s : List Char) :
    takeAttributes (k.before s) = (takeAttributes s).map fun r => (r.1, k.before r.2) :=
  takeAttributes_append (k.avoids_before (by simp)) s

/-- Joining a text with another one by a sign joins the names that the two mention. -/
theorem namesOf_append_sign {s : List Char} {names : Names} (hs : s.getLast? ≠ some '\\')
    (h : namesOf s = .ok names) (k : Sign) (t : List Char) :
    namesOf (s ++ k.before t) = (namesOf t).map names.append := by
  obtain ⟨plain, hplain, h⟩ := exists_of_bind_eq_ok h
  obtain ⟨⟨attrs, bare⟩, hbare, h⟩ := exists_of_bind_eq_ok h
  obtain rfl : Names.ofBare attrs bare = names := Except.ok.inj h
  have hleaves := LeavesBefore.of_withoutPseudo endsPseudo_space (avoids_slash hs) hplain
  obtain ⟨havoids, hattrs⟩ := takeAttributes_append_of_eq_ok hleaves.avoids hbare
  have hjoined : withoutPseudo (s ++ k.before t) =
      (withoutPseudo (k.before t)).map (plain ++ ·) := hleaves.eq _
  rw [namesOf_eq, namesOf_eq, hjoined, withoutPseudo_before]
  cases withoutPseudo t with
  | error fault => rfl
  | ok plain' =>
      simp only [Except.map, Except.bind, hattrs, takeAttributes_before]
      cases takeAttributes plain' with
      | error fault => rfl
      | ok r' => simp only [Names.ofBare_append_sign havoids]

end Selector

end StylePrune
