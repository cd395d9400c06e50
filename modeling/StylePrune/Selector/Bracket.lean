/-!
# Closing brackets

The place where a bracket closes, in a text with escapes, quoted strings and brackets
of the same kind inside.
-/

namespace StylePrune

namespace Selector

def isQuote (c : Char) : Bool :=
  c == '"' || c == '\''

/--
The number of characters before the bracket `closing` that closes the current one, in the
text after it.  `quote` is the quote of the string that the text starts in, `depth` counts
the brackets opened since.  A backslash takes the next character with it.
-/
def charsBeforeClosing? (opening closing : Char) (quote : Option Char) (depth : Nat) :
    List Char → Option Nat
  | [] => none
  | ['\\'] => none
  | '\\' :: _ :: rest =>
      (charsBeforeClosing? opening closing quote depth rest).map (· + 2)
  | c :: rest =>
      match quote with
      | some q =>
          (charsBeforeClosing? opening closing (if c = q then none else some q) depth rest).map
            (· + 1)
      | none =>
          if isQuote c then
            (charsBeforeClosing? opening closing (some c) depth rest).map (· + 1)
          else if c = opening then
            (charsBeforeClosing? opening closing none (depth + 1) rest).map (· + 1)
          else if c = closing then
            match depth with
            | 0 => some 0
            | depth + 1 =>
                (charsBeforeClosing? opening closing none depth rest).map (· + 1)
          else (charsBeforeClosing? opening closing none depth rest).map (· + 1)

/-- The text inside a bracket and the text after it, both without the closing bracket. -/
def splitClosing? (opening closing : Char) (s : List Char) : Option (List Char × List Char) :=
  (charsBeforeClosing? opening closing none 0 s).map fun n => (s.take n, s.drop (n + 1))

/-- The index of the bracket that closes the one at index `start`. -/
def closingIndex? (opening closing : Char) (s : List Char) (start : Nat) : Option Nat :=
  (charsBeforeClosing? opening closing none 0 (s.drop (start + 1))).map (start + 1 + ·)

theorem charsBeforeClosing?_lt {opening closing : Char} {quote : Option Char} {depth n : Nat}
    {s : List Char} (h : charsBeforeClosing? opening closing quote depth s = some n) :
    n < s.length := by
  fun_induction charsBeforeClosing? opening closing quote depth s generalizing n with
  | case1 => simp at h
  | case2 => simp at h
  | case3 quote depth c rest ih =>
      obtain ⟨m, hm, rfl⟩ := Option.map_eq_some_iff.mp h
      have := ih hm
      simp only [List.length_cons]
      omega
  | case7 =>
      obtain rfl : 0 = n := Option.some.inj h
      simp
  | case4 | case5 | case6 | case8 | case9 =>
      rename_i ih
      obtain ⟨m, hm, rfl⟩ := Option.map_eq_some_iff.mp h
      have := ih hm
      simp only [List.length_cons]
      omega

theorem length_splitClosing?_lt {opening closing : Char} {s inside rest : List Char}
    (h : splitClosing? opening closing s = some (inside, rest)) : rest.length < s.length := by
  obtain ⟨n, hn, he⟩ := Option.map_eq_some_iff.mp h
  have := charsBeforeClosing?_lt hn
  simp only [Prod.mk.injEq] at he
  obtain ⟨-, rfl⟩ := he
  simp only [List.length_drop]
  omega

end Selector

end StylePrune
