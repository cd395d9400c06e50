import StylePrune.Proofs.Selector.Passes

/-!
# Balanced texts

Texts in which every bracket of one kind and every quote closes.  The search for the bracket
that closes the current one runs over such a text without stopping.
-/

namespace StylePrune

namespace Selector

/-- Two different characters that are neither quotes nor the backslash. -/
structure IsPair (opening closing : Char) : Prop where
  ne : opening ≠ closing
  opening_ne : opening ≠ '\\'
  closing_ne : closing ≠ '\\'
  isQuote_opening : isQuote opening = false
  isQuote_closing : isQuote closing = false

theorem isPair_round : IsPair '(' ')' := ⟨by decide, by decide, by decide, rfl, rfl⟩

theorem isPair_square : IsPair '[' ']' := ⟨by decide, by decide, by decide, rfl, rfl⟩

/--
Outside strings the brackets match; strings are closed, and a backslash takes the next
character with it, inside strings and outside.
-/
inductive Balanced (opening closing : Char) : List Char → Prop
  | nil : Balanced opening closing []
  | escape (c : Char) {s : List Char} :
      Balanced opening closing s → Balanced opening closing ('\\' :: c :: s)
  | plain {c : Char} {s : List Char} :
      c ≠ '\\' → isQuote c = false → c ≠ opening → c ≠ closing →
        Balanced opening closing s → Balanced opening closing (c :: s)
  | quoted {q : Char} {body s : List Char} :
      isQuote q = true → Avoids q body →
        Balanced opening closing s → Balanced opening closing (q :: (body ++ q :: s))
  | nested {inner s : List Char} :
      Balanced opening closing inner → Balanced opening closing s →
        Balanced opening closing (opening :: (inner ++ closing :: s))

theorem Balanced.of_forall {opening closing : Char} {u s : List Char}
    (h : ∀ c ∈ u, c ≠ '\\' ∧ isQuote c = false ∧ c ≠ opening ∧ c ≠ closing)
    (hs : Balanced opening closing s) : Balanced opening closing (u ++ s) := by
  induction u with
  | nil => exact hs
  | cons c rest ih =>
      obtain ⟨h1, h2, h3, h4⟩ := h c List.mem_cons_self
      exact .plain h1 h2 h3 h4 (ih fun d hd => h d (List.mem_cons_of_mem c hd))

/-! ## The search -/

variable {opening closing : Char}

theorem charsBeforeClosing?_escape (quote : Option Char) (depth : Nat) (c : Char)
    (s : List Char) :
    charsBeforeClosing? opening closing quote depth ('\\' :: c :: s) =
      (charsBeforeClosing? opening closing quote depth s).map (· + 2) := by
  rw [charsBeforeClosing?]

theorem charsBeforeClosing?_inside {c : Char} (hc : c ≠ '\\') (q : Char) (depth : Nat)
    (s : List Char) :
    charsBeforeClosing? opening closing (some q) depth (c :: s) =
      (charsBeforeClosing? opening closing (if c = q then none else some q) depth s).map
        (· + 1) := by
  rw [charsBeforeClosing?] <;> simp [hc]

theorem charsBeforeClosing?_outside {c : Char} (hc : c ≠ '\\') (depth : Nat) (s : List Char) :
    charsBeforeClosing? opening closing none depth (c :: s) =
      if isQuote c then
        (charsBeforeClosing? opening closing (some c) depth s).map (· + 1)
      else if c = opening then
        (charsBeforeClosing? opening closing none (depth + 1) s).map (· + 1)
      else if c = closing then
        match depth with
        | 0 => some 0
        | depth + 1 => (charsBeforeClosing? opening closing none depth s).map (· + 1)
      else (charsBeforeClosing? opening closing none depth s).map (· + 1) := by
  cases depth <;> rw [charsBeforeClosing?] <;> simp [hc]

/-- The search runs to the end of the string it is in. -/
theorem charsBeforeClosing?_string {q : Char} (hq : isQuote q = true) {body : List Char}
    (h : Avoids q body) (depth : Nat) (s : List Char) :
    charsBeforeClosing? opening closing (some q) depth (body ++ q :: s) =
      (charsBeforeClosing? opening closing none depth s).map (· + (body.length + 1)) := by
  have hne : q ≠ '\\' := by
    rintro rfl
    cases hq
  induction h with
  | nil => simp [charsBeforeClosing?_inside hne]
  | escape c _ ih =>
      rw [List.cons_append, List.cons_append, charsBeforeClosing?_escape, ih, Option.map_map]
      rfl
  | cons hc hx _ ih =>
      rw [List.cons_append, charsBeforeClosing?_inside hc]
      simp only [if_neg hx, ih, Option.map_map]
      rfl

/-- The search runs over a balanced text. -/
theorem Balanced.charsBeforeClosing?_append (hp : IsPair opening closing) {u : List Char}
    (h : Balanced opening closing u) (depth : Nat) (s : List Char) :
    charsBeforeClosing? opening closing none depth (u ++ s) =
      (charsBeforeClosing? opening closing none depth s).map (· + u.length) := by
  induction h generalizing depth s with
  | nil => simp
  | escape c _ ih =>
      rw [List.cons_append, List.cons_append, charsBeforeClosing?_escape, ih, Option.map_map]
      rfl
  | plain h1 h2 h3 h4 _ ih =>
      rw [List.cons_append, charsBeforeClosing?_outside h1]
      simp only [h2, Bool.false_eq_true, if_false, if_neg h3, if_neg h4, ih, Option.map_map]
      rfl
  | @quoted q body t hq hb _ ih =>
      have hne : q ≠ '\\' := by
        rintro rfl
        cases hq
      rw [List.cons_append, charsBeforeClosing?_outside hne]
      simp only [hq, if_true, List.append_assoc, List.cons_append,
        charsBeforeClosing?_string hq hb, ih, Option.map_map]
      congr 1
      funext n
      simp only [Function.comp_apply, List.length_cons, List.length_append]
      omega
  | @nested inner t _ _ ihi iht =>
      rw [List.cons_append, charsBeforeClosing?_outside hp.opening_ne]
      simp only [hp.isQuote_opening, Bool.false_eq_true, if_false, if_true, List.append_assoc,
        List.cons_append, ihi, charsBeforeClosing?_outside hp.closing_ne, hp.isQuote_closing,
        if_neg hp.ne.symm, iht, Option.map_map]
      congr 1
      funext n
      simp only [Function.comp_apply, List.length_cons, List.length_append]
      omega

/-- A balanced text is all there is inside a bracket that closes behind it. -/
theorem Balanced.splitClosing?_append (hp : IsPair opening closing) {u : List Char}
    (h : Balanced opening closing u) (s : List Char) :
    splitClosing? opening closing (u ++ closing :: s) = some (u, s) := by
  have hc : charsBeforeClosing? opening closing none 0 (u ++ closing :: s) = some u.length := by
    rw [h.charsBeforeClosing?_append hp, charsBeforeClosing?_outside hp.closing_ne]
    simp [hp.isQuote_closing, hp.ne.symm]
  rw [splitClosing?, hc, Option.map_some, List.take_left, ← List.singleton_append,
    ← List.append_assoc, List.drop_left' (by simp)]

end Selector

end StylePrune
