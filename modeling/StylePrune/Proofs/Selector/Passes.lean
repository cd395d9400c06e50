import StylePrune.Selector.Descriptor

/-!
# The passes on pieces of a selector

Each pass copies the characters it does not look for, so what it makes of a text is read
off the pieces of the text.  A text that avoids a character is copied as a whole.
-/

namespace StylePrune

namespace Selector

open Text

/-- What goes on behind a result has a result only behind one. -/
theorem exists_of_bind_eq_ok {α β : Type} {r : Except Fault α} {k : α → Except Fault β} {b : β}
    (h : r >>= k = .ok b) : ∃ a, r = .ok a ∧ k a = .ok b := by
  cases r with
  | error fault => cases h
  | ok a => exact ⟨a, rfl, h⟩

/-- `x` stands in the text only after backslashes, and no backslash is left alone at the end. -/
inductive Avoids (x : Char) : List Char → Prop
  | nil : Avoids x []
  | escape (c : Char) {s : List Char} : Avoids x s → Avoids x ('\\' :: c :: s)
  | cons {c : Char} {s : List Char} : c ≠ '\\' → c ≠ x → Avoids x s → Avoids x (c :: s)

theorem Avoids.append {x : Char} {u s : List Char} (hu : Avoids x u) (hs : Avoids x s) :
    Avoids x (u ++ s) := by
  induction hu with
  | nil => exact hs
  | escape c _ ih => exact .escape c ih
  | cons hc hx _ ih => exact .cons hc hx ih

theorem Avoids.of_forall {x : Char} {u : List Char} (h : ∀ c ∈ u, c ≠ '\\' ∧ c ≠ x) :
    Avoids x u := by
  induction u with
  | nil => exact .nil
  | cons c rest ih =>
      obtain ⟨hs, hx⟩ := h c List.mem_cons_self
      exact .cons hs hx (ih fun d hd => h d (List.mem_cons_of_mem c hd))

/-! ## Pseudo-classes -/

theorem withoutPseudo_escape (c : Char) (s : List Char) :
    withoutPseudo ('\\' :: c :: s) = (withoutPseudo s).map ('\\' :: c :: ·) := by
  rw [withoutPseudo]
  rfl

/-- A character that starts no pseudo-class is copied. -/
theorem withoutPseudo_cons {c : Char} {s : List Char} (hc : c ≠ '\\')
    (h : ¬(c = ':' ∧ startsPseudo s = true)) :
    withoutPseudo (c :: s) = (withoutPseudo s).map (c :: ·) := by
  rw [withoutPseudo.eq_4 c s (by simp [hc]) (by simp [hc]), if_neg h]
  rfl

/-- A pseudo-class without an argument goes. -/
theorem withoutPseudo_bare {s : List Char} (h : startsPseudo s = true)
    (hs : (dropPseudoName s).head? ≠ some '(') :
    withoutPseudo (':' :: s) = withoutPseudo (dropPseudoName s) := by
  rw [withoutPseudo.eq_4 ':' s (by simp) (by simp), if_pos ⟨rfl, h⟩]
  split
  · rename_i hn
    simp [hn] at hs
  · rfl

/-- Behind the name of a pseudo-class a parenthesis opens its argument. -/
theorem withoutPseudo_paren {s argument : List Char} (h : startsPseudo s = true)
    (hs : dropPseudoName s = '(' :: argument) :
    withoutPseudo (':' :: s) =
      (splitClosing? '(' ')' argument).elim (.error .unbalancedParenthesis)
        fun r => withoutPseudo r.2 := by
  rw [withoutPseudo.eq_4 ':' s (by simp) (by simp), if_pos ⟨rfl, h⟩]
  split
  · rename_i argument' hn
    obtain rfl : argument = argument' := by simpa [hs] using hn
    split
    · rename_i hc
      rw [hc, Option.elim_some]
    · rename_i hc
      rw [hc, Option.elim_none]
  · rename_i hn
    exact absurd hs (hn argument)

/-- A pseudo-class goes with its argument. -/
theorem withoutPseudo_call {s argument inside after : List Char} (h : startsPseudo s = true)
    (hs : dropPseudoName s = '(' :: argument)
    (hc : splitClosing? '(' ')' argument = some (inside, after)) :
    withoutPseudo (':' :: s) = withoutPseudo after := by
  rw [withoutPseudo_paren h hs, hc, Option.elim_some]

/-- A pseudo-class with an argument that does not close is a fault. -/
theorem withoutPseudo_open {s argument : List Char} (h : startsPseudo s = true)
    (hs : dropPseudoName s = '(' :: argument) (hc : splitClosing? '(' ')' argument = none) :
    withoutPseudo (':' :: s) = .error .unbalancedParenthesis := by
  rw [withoutPseudo_paren h hs, hc, Option.elim_none]

theorem withoutPseudo_append {u : List Char} (h : Avoids ':' u) (s : List Char) :
    withoutPseudo (u ++ s) = (withoutPseudo s).map (u ++ ·) := by
  induction h with
  | nil =>
      rw [List.nil_append]
      cases withoutPseudo s <;> rfl
  | escape c _ ih =>
      rw [List.cons_append, List.cons_append, withoutPseudo_escape, ih]
      cases withoutPseudo s <;> rfl
  | cons hc hx _ ih =>
      rw [List.cons_append, withoutPseudo_cons hc fun hp => hx hp.1, ih]
      cases withoutPseudo s <;> rfl

/-! ## Attribute selectors -/

theorem takeAttributes_escape (c : Char) (s : List Char) :
    takeAttributes ('\\' :: c :: s) =
      (takeAttributes s).map fun r => (r.1, '\\' :: c :: r.2) := by
  rw [takeAttributes]
  rfl

theorem takeAttributes_cons {c : Char} (hc : c ≠ '\\') (h : c ≠ '[') (s : List Char) :
    takeAttributes (c :: s) = (takeAttributes s).map fun r => (r.1, c :: r.2) := by
  rw [takeAttributes.eq_4 c s (by simp [hc]) (by simp [hc]), if_neg h]
  rfl

/-- An attribute selector leaves its name. -/
theorem takeAttributes_bracket {s inside after : List Char}
    (hc : splitClosing? '[' ']' s = some (inside, after)) (hn : attrName inside ≠ []) :
    takeAttributes ('[' :: s) =
      (takeAttributes after).map fun r => (attrName inside :: r.1, r.2) := by
  rw [takeAttributes.eq_4 '[' s (by simp) (by simp), if_pos rfl]
  split
  · rename_i hc'
    simp [hc] at hc'
  · rename_i inside' after' hc'
    obtain ⟨rfl, rfl⟩ : inside = inside' ∧ after = after' := by simpa [hc] using hc'
    rw [if_neg hn]
    rfl

theorem takeAttributes_append {u : List Char} (h : Avoids '[' u) (s : List Char) :
    takeAttributes (u ++ s) = (takeAttributes s).map fun r => (r.1, u ++ r.2) := by
  induction h with
  | nil =>
      rw [List.nil_append]
      cases takeAttributes s <;> rfl
  | escape c _ ih =>
      rw [List.cons_append, List.cons_append, takeAttributes_escape, ih]
      cases takeAttributes s <;> rfl
  | cons hc hx _ ih =>
      rw [List.cons_append, takeAttributes_cons hc hx, ih]
      cases takeAttributes s <;> rfl

/-! ## Classes and ids -/

theorem takePrefixed_escape (sigil c : Char) (s : List Char) :
    takePrefixed sigil ('\\' :: c :: s) =
      ((takePrefixed sigil s).1, '\\' :: c :: (takePrefixed sigil s).2) := by
  rw [takePrefixed]

theorem takePrefixed_cons {sigil c : Char} (hc : c ≠ '\\') (h : c ≠ sigil) (s : List Char) :
    takePrefixed sigil (c :: s) = ((takePrefixed sigil s).1, c :: (takePrefixed sigil s).2) := by
  rw [takePrefixed.eq_4 sigil c s (by simp [hc]) (by simp [hc]), if_neg h]

/-- A name after the sigil is taken. -/
theorem takePrefixed_sigil {sigil : Char} {s : List Char} (hc : sigil ≠ '\\')
    (h : (readName s).1 ≠ []) :
    takePrefixed sigil (sigil :: s) =
      ((readName s).1 :: (takePrefixed sigil (readName s).2).1,
        (takePrefixed sigil (readName s).2).2) := by
  rw [takePrefixed.eq_4 sigil sigil s (by simp [hc]) (by simp [hc]), if_pos rfl, dif_neg h]

theorem takePrefixed_append {sigil : Char} {u : List Char} (h : Avoids sigil u) (s : List Char) :
    takePrefixed sigil (u ++ s) = ((takePrefixed sigil s).1, u ++ (takePrefixed sigil s).2) := by
  induction h with
  | nil => rfl
  | escape c _ ih => rw [List.cons_append, List.cons_append, takePrefixed_escape, ih]; rfl
  | cons hc hx _ ih => rw [List.cons_append, takePrefixed_cons hc hx, ih]; rfl

/-! ## Tags -/

theorem tagRuns_cons {c : Char} (hc : c ≠ '\\') (current s : List Char) :
    tagRuns current (c :: s) =
      if isNameChar c then tagRuns (c :: current) s
      else if current.isEmpty then tagRuns [] s
      else current.reverse :: tagRuns [] s :=
  tagRuns.eq_4 current c s (by simp [hc]) (by simp [hc])

end Selector

end StylePrune
