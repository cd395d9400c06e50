import StylePrune.Proofs.Selector.Balance

/-!
# The search for a closing bracket

The search goes through a text token by token: a backslash takes the next character with it,
and every other character changes the quote and the depth or ends the search.  So a bracket
that closes in a text closes at the same place in a longer one, and no escape is cut by it.
-/

namespace StylePrune

namespace Selector

/-- Texts from their end, token by token. -/
@[elab_as_elim]
theorem token_induction {P : List Char → Prop} (nil : P []) (slash : P ['\\'])
    (escape : ∀ c s, P s → P ('\\' :: c :: s))
    (char : ∀ c s, c ≠ '\\' → P s → P (c :: s)) : ∀ s, P s
  | [] => nil
  | [c] => by
      by_cases hc : c = '\\'
      · exact hc ▸ slash
      · exact char c [] hc nil
  | c :: d :: s => by
      by_cases hc : c = '\\'
      · exact hc ▸ escape d s (token_induction nil slash escape char s)
      · exact char c (d :: s) hc (token_induction nil slash escape char (d :: s))

/-- What a recursion token by token knows of a character that starts no escape. -/
theorem ne_slash_of_cases {c : Char} {s : List Char} (hlast : c = '\\' → s = [] → False)
    (hmore : ∀ d t, c = '\\' → s = d :: t → False) : c ≠ '\\' := by
  intro hc
  cases s with
  | nil => exact hlast hc rfl
  | cons d t => exact hmore d t hc rfl

/-- The quote and the depth after a character; `none` where it is the bracket that closes. -/
def afterChar? (opening closing : Char) (quote : Option Char) (depth : Nat) (c : Char) :
    Option (Option Char × Nat) :=
  match quote with
  | some q => some (if c = q then none else some q, depth)
  | none =>
      if isQuote c then some (some c, depth)
      else if c = opening then some (none, depth + 1)
      else if c = closing then
        match depth with
        | 0 => none
        | depth + 1 => some (none, depth)
      else some (none, depth)

variable {opening closing : Char}

/-- Only a quote starts a string in this quote. -/
theorem afterChar?_fst_ne {c q : Char} (hc : c ≠ q) {quote : Option Char} (hquote : quote ≠ some q)
    {depth : Nat} {state : Option Char × Nat}
    (h : afterChar? opening closing quote depth c = some state) : state.1 ≠ some q := by
  revert h
  rw [afterChar?.eq_def]
  grind

theorem charsBeforeClosing?_nil (quote : Option Char) (depth : Nat) :
    charsBeforeClosing? opening closing quote depth [] = none := by
  rw [charsBeforeClosing?]

theorem charsBeforeClosing?_slash (quote : Option Char) (depth : Nat) :
    charsBeforeClosing? opening closing quote depth ['\\'] = none := by
  rw [charsBeforeClosing?]

/-- One step of the search. -/
theorem charsBeforeClosing?_cons {c : Char} (hc : c ≠ '\\') (quote : Option Char) (depth : Nat)
    (s : List Char) :
    charsBeforeClosing? opening closing quote depth (c :: s) =
      match afterChar? opening closing quote depth c with
      | none => some 0
      | some (quote, depth) =>
          (charsBeforeClosing? opening closing quote depth s).map (· + 1) := by
  cases quote with
  | some q => rw [charsBeforeClosing?_inside hc, afterChar?]
  | none =>
      rw [charsBeforeClosing?_outside hc, afterChar?.eq_def]
      dsimp only
      split
      · rfl
      · split
        · rfl
        · split
          · cases depth <;> rfl
          · rfl

/-- A bracket that closes in a text closes at the same place in a longer one. -/
theorem charsBeforeClosing?_append_of_eq_some {quote : Option Char} {depth n : Nat}
    {u : List Char} (h : charsBeforeClosing? opening closing quote depth u = some n)
    (s : List Char) : charsBeforeClosing? opening closing quote depth (u ++ s) = some n := by
  induction u using token_induction generalizing quote depth n with
  | nil => rw [charsBeforeClosing?_nil] at h; cases h
  | slash => rw [charsBeforeClosing?_slash] at h; cases h
  | escape c u ih =>
      rw [charsBeforeClosing?_escape] at h
      obtain ⟨m, hm, rfl⟩ := Option.map_eq_some_iff.mp h
      rw [List.cons_append, List.cons_append, charsBeforeClosing?_escape, ih hm, Option.map_some]
  | char c u hc ih =>
      rw [List.cons_append, charsBeforeClosing?_cons hc]
      rw [charsBeforeClosing?_cons hc] at h
      cases hafter : afterChar? opening closing quote depth c with
      | none => rwa [hafter] at h
      | some state =>
          rw [hafter] at h
          obtain ⟨m, hm, rfl⟩ := Option.map_eq_some_iff.mp h
          exact congrArg (Option.map (· + 1)) (ih hm)

theorem splitClosing?_append_of_eq_some {u inside after : List Char}
    (h : splitClosing? opening closing u = some (inside, after)) (s : List Char) :
    splitClosing? opening closing (u ++ s) = some (inside, after ++ s) := by
  obtain ⟨n, hn, he⟩ := Option.map_eq_some_iff.mp h
  have hlt := charsBeforeClosing?_lt hn
  simp only [Prod.mk.injEq] at he
  obtain ⟨rfl, rfl⟩ := he
  rw [splitClosing?, charsBeforeClosing?_append_of_eq_some hn, Option.map_some,
    List.take_append_of_le_length (by omega), List.drop_append_of_le_length (by omega)]

/-! ## The text behind the bracket -/

theorem Avoids.of_cons {x c : Char} {s : List Char} (hc : c ≠ '\\') (h : Avoids x (c :: s)) :
    Avoids x s := by
  cases h with
  | escape => exact absurd rfl hc
  | cons _ _ hs => exact hs

/-- The bracket that closes cuts no escape. -/
theorem Avoids.drop_closing {x : Char} {quote : Option Char} {depth n : Nat} {s : List Char}
    (h : Avoids x s) (hn : charsBeforeClosing? opening closing quote depth s = some n) :
    Avoids x (s.drop (n + 1)) := by
  induction s using token_induction generalizing quote depth n with
  | nil => exact h
  | slash => rw [charsBeforeClosing?_slash] at hn; cases hn
  | escape c s ih =>
      rw [charsBeforeClosing?_escape] at hn
      obtain ⟨m, hm, rfl⟩ := Option.map_eq_some_iff.mp hn
      cases h with
      | escape _ hs => exact ih hs hm
      | cons hslash => exact absurd rfl hslash
  | char c s hc ih =>
      rw [charsBeforeClosing?_cons hc] at hn
      have hs := h.of_cons hc
      cases hafter : afterChar? opening closing quote depth c with
      | none =>
          rw [hafter] at hn
          obtain rfl : 0 = n := Option.some.inj hn
          exact hs
      | some state =>
          rw [hafter] at hn
          obtain ⟨m, hm, rfl⟩ := Option.map_eq_some_iff.mp hn
          exact ih hs hm

theorem Avoids.of_splitClosing? {x : Char} {s inside after : List Char} (h : Avoids x s)
    (hs : splitClosing? opening closing s = some (inside, after)) : Avoids x after := by
  obtain ⟨n, hn, he⟩ := Option.map_eq_some_iff.mp hs
  simp only [Prod.mk.injEq] at he
  obtain ⟨-, rfl⟩ := he
  exact h.drop_closing hn

end Selector

end StylePrune
