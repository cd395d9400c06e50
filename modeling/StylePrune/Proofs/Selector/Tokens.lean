import StylePrune.Proofs.Selector.Closing

/-!
# Tokens of a text

A text as a list of tokens: escapes, strings and single characters.  Brackets inside escapes and
strings are no tokens of their own, so on tokens the search for a closing bracket is a count of
brackets, and the search on characters ends where that count does.
-/

namespace StylePrune

namespace Selector

/--
The rest of a string of the quote `q`, and the text after it.  The string goes up to the next `q`
that no backslash takes with it, or to the end of the text if there is none.
-/
def takeString (q : Char) : List Char → List Char × List Char
  | [] => ([], [])
  | ['\\'] => (['\\'], [])
  | '\\' :: c :: rest =>
      let r := takeString q rest
      ('\\' :: c :: r.1, r.2)
  | c :: rest =>
      if c = q then ([c], rest)
      else
        let r := takeString q rest
        (c :: r.1, r.2)

theorem takeString_nil (q : Char) : takeString q [] = ([], []) := rfl

theorem takeString_slash (q : Char) : takeString q ['\\'] = (['\\'], []) := rfl

theorem takeString_escape (q c : Char) (s : List Char) :
    takeString q ('\\' :: c :: s) =
      ('\\' :: c :: (takeString q s).1, (takeString q s).2) := rfl

theorem takeString_cons {c : Char} (hc : c ≠ '\\') (q : Char) (s : List Char) :
    takeString q (c :: s) =
      if c = q then ([c], s) else (c :: (takeString q s).1, (takeString q s).2) :=
  takeString.eq_4 q c s (by simp [hc]) (by simp [hc])

theorem takeString_append (q : Char) (s : List Char) :
    (takeString q s).1 ++ (takeString q s).2 = s := by
  induction s using token_induction with
  | nil => rfl
  | slash => rfl
  | escape c s ih => simp [takeString_escape, ih]
  | char c s hc ih =>
      rw [takeString_cons hc]
      split
      · rfl
      · rw [List.cons_append, ih]

theorem length_takeString_le (q : Char) (s : List Char) :
    (takeString q s).2.length ≤ s.length := by
  have := congrArg List.length (takeString_append q s)
  rw [List.length_append] at this
  omega

/--
The tokens of a text.  A backslash and the character after it are one token, and so is a
backslash at the end; a quote starts a string; every other character is a token.
-/
def tokens (s : List Char) : List (List Char) :=
  match s with
  | [] => []
  | ['\\'] => [['\\']]
  | '\\' :: c :: rest => ['\\', c] :: tokens rest
  | c :: rest =>
      if isQuote c then (c :: (takeString c rest).1) :: tokens (takeString c rest).2
      else [c] :: tokens rest
termination_by s.length
decreasing_by
  · simp only [List.length_cons]
    omega
  · have := length_takeString_le c rest
    simp only [List.length_cons]
    omega
  · simp

theorem tokens_cons {c : Char} (hc : c ≠ '\\') (s : List Char) :
    tokens (c :: s) =
      if isQuote c then (c :: (takeString c s).1) :: tokens (takeString c s).2
      else [c] :: tokens s :=
  tokens.eq_4 c s (by simp [hc]) (by simp [hc])

/-- The tokens are the whole text. -/
theorem flatten_tokens (s : List Char) : (tokens s).flatten = s := by
  fun_induction tokens s with
  | case1 => rfl
  | case2 => rfl
  | case3 c rest ih => rw [List.flatten_cons, ih]; rfl
  | case4 c rest _ _ _ ih => rw [List.flatten_cons, ih, List.cons_append, takeString_append]
  | case5 c rest _ _ _ ih => rw [List.flatten_cons, ih]; rfl

/-- The number of characters before the token `n`. -/
def offset (ts : List (List Char)) (n : Nat) : Nat :=
  (ts.take n).flatten.length

@[simp] theorem offset_zero (ts : List (List Char)) : offset ts 0 = 0 := by
  simp [offset]

@[simp] theorem offset_cons (token : List Char) (ts : List (List Char)) (n : Nat) :
    offset (token :: ts) (n + 1) = token.length + offset ts n := by
  simp [offset]

theorem offset_mono (ts : List (List Char)) {m n : Nat} (h : m ≤ n) :
    offset ts m ≤ offset ts n := by
  induction ts generalizing m n with
  | nil => simp [offset]
  | cons token ts ih =>
      cases m with
      | zero => simp
      | succ m =>
          cases n with
          | zero => omega
          | succ n =>
              have := ih (Nat.le_of_succ_le_succ h)
              simp only [offset_cons]
              omega

theorem offset_succ {ts : List (List Char)} {n : Nat} {token : List Char}
    (h : ts[n]? = some token) : offset ts (n + 1) = offset ts n + token.length := by
  obtain ⟨hlt, rfl⟩ := List.getElem?_eq_some_iff.mp h
  rw [offset, offset, List.take_succ_eq_append_getElem hlt, List.flatten_append,
    List.length_append, List.flatten_singleton]

/-! ## Counting brackets -/

variable {opening closing : Char} {depth n : Nat} {token : List Char} {ts : List (List Char)}

/--
The token `n` is a closing bracket, and up to it as many brackets close as were open before the
tokens (`depth`) and open in them.
-/
structure ClosesAt (opening closing : Char) (depth : Nat) (ts : List (List Char)) (n : Nat) :
    Prop where
  isClosing : ts[n]? = some [closing]
  even : depth + (ts.take (n + 1)).count [opening] = (ts.take (n + 1)).count [closing]

theorem closesAt_iff :
    ClosesAt opening closing depth ts n ↔
      ts[n]? = some [closing] ∧
        depth + (ts.take (n + 1)).count [opening] = (ts.take (n + 1)).count [closing] :=
  ⟨fun h => ⟨h.isClosing, h.even⟩, fun h => ⟨h.1, h.2⟩⟩

theorem closesAt_zero_iff (h : opening ≠ closing) :
    ClosesAt opening closing depth (token :: ts) 0 ↔ token = [closing] ∧ depth = 1 := by
  simp only [closesAt_iff, List.getElem?_cons_zero, Option.some_inj, Nat.zero_add,
    List.take_succ_cons, List.take_zero]
  refine and_congr_right fun htoken => ?_
  simp [htoken, h.symm]

theorem closesAt_opening_iff (h : opening ≠ closing) :
    ClosesAt opening closing depth ([opening] :: ts) (n + 1) ↔
      ClosesAt opening closing (depth + 1) ts n := by
  simp only [closesAt_iff, List.getElem?_cons_succ, List.take_succ_cons, List.count_cons_self,
    List.count_cons_of_ne (by simpa using h : [opening] ≠ [closing])]
  refine and_congr_right fun _ => ?_
  omega

theorem closesAt_closing_iff (h : opening ≠ closing) :
    ClosesAt opening closing (depth + 1) ([closing] :: ts) (n + 1) ↔
      ClosesAt opening closing depth ts n := by
  simp only [closesAt_iff, List.getElem?_cons_succ, List.take_succ_cons, List.count_cons_self,
    List.count_cons_of_ne (by simpa using h.symm : [closing] ≠ [opening])]
  refine and_congr_right fun _ => ?_
  omega

theorem closesAt_plain_iff (ho : token ≠ [opening]) (hc : token ≠ [closing]) :
    ClosesAt opening closing depth (token :: ts) (n + 1) ↔
      ClosesAt opening closing depth ts n := by
  simp only [closesAt_iff, List.getElem?_cons_succ, List.take_succ_cons, List.count_cons_of_ne ho,
    List.count_cons_of_ne hc]

/-- Up to the token `n` no more brackets close than are open. -/
def StaysOpen (opening closing : Char) (depth : Nat) (ts : List (List Char)) (n : Nat) : Prop :=
  ∀ m ≤ n, (ts.take m).count [closing] ≤ depth + (ts.take m).count [opening]

theorem staysOpen_zero : StaysOpen opening closing depth ts 0 := by
  intro m hm
  obtain rfl := Nat.le_zero.mp hm
  simp

theorem staysOpen_cons_iff :
    StaysOpen opening closing depth (token :: ts) (n + 1) ↔
      ∀ m ≤ n, (token :: ts.take m).count [closing] ≤
        depth + (token :: ts.take m).count [opening] := by
  refine ⟨fun h m hm => h (m + 1) (Nat.succ_le_succ hm), fun h m hm => ?_⟩
  cases m with
  | zero => simp
  | succ m => exact h m (Nat.le_of_succ_le_succ hm)

theorem staysOpen_opening_iff (h : opening ≠ closing) :
    StaysOpen opening closing depth ([opening] :: ts) (n + 1) ↔
      StaysOpen opening closing (depth + 1) ts n := by
  simp only [staysOpen_cons_iff, List.count_cons_self,
    List.count_cons_of_ne (by simpa using h : [opening] ≠ [closing])]
  refine forall₂_congr fun m _ => ?_
  omega

theorem staysOpen_closing_iff (h : opening ≠ closing) :
    StaysOpen opening closing (depth + 1) ([closing] :: ts) (n + 1) ↔
      StaysOpen opening closing depth ts n := by
  simp only [staysOpen_cons_iff, List.count_cons_self,
    List.count_cons_of_ne (by simpa using h.symm : [closing] ≠ [opening])]
  refine forall₂_congr fun m _ => ?_
  omega

theorem staysOpen_plain_iff (ho : token ≠ [opening]) (hc : token ≠ [closing]) :
    StaysOpen opening closing depth (token :: ts) (n + 1) ↔
      StaysOpen opening closing depth ts n := by
  simp only [staysOpen_cons_iff, List.count_cons_of_ne ho, List.count_cons_of_ne hc]
  rfl

/--
The number of tokens before the one that closes the current bracket; `depth` counts the brackets
opened since.
-/
def tokensBeforeClosing? (opening closing : Char) : Nat → List (List Char) → Option Nat
  | _, [] => none
  | depth, token :: ts =>
      if token = [opening] then (tokensBeforeClosing? opening closing (depth + 1) ts).map (· + 1)
      else if token = [closing] then
        match depth with
        | 0 => some 0
        | depth + 1 => (tokensBeforeClosing? opening closing depth ts).map (· + 1)
      else (tokensBeforeClosing? opening closing depth ts).map (· + 1)

/-- Where the search ends the brackets are even, and before it none closes that was not open. -/
theorem closesAt_of_tokensBeforeClosing? (h : opening ≠ closing)
    (hn : tokensBeforeClosing? opening closing depth ts = some n) :
    ClosesAt opening closing (depth + 1) ts n ∧ StaysOpen opening closing depth ts n := by
  fun_induction tokensBeforeClosing? opening closing depth ts generalizing n with
  | case1 => cases hn
  | case2 depth ts ih =>
      obtain ⟨k, hk, rfl⟩ := Option.map_eq_some_iff.mp hn
      exact ⟨(closesAt_opening_iff h).mpr (ih hk).1, (staysOpen_opening_iff h).mpr (ih hk).2⟩
  | case3 ts =>
      obtain rfl := Option.some.inj hn
      exact ⟨(closesAt_zero_iff h).mpr ⟨rfl, rfl⟩, staysOpen_zero⟩
  | case4 ts _ depth ih =>
      obtain ⟨k, hk, rfl⟩ := Option.map_eq_some_iff.mp hn
      exact ⟨(closesAt_closing_iff h).mpr (ih hk).1, (staysOpen_closing_iff h).mpr (ih hk).2⟩
  | case5 depth token ts ho hc ih =>
      obtain ⟨k, hk, rfl⟩ := Option.map_eq_some_iff.mp hn
      exact ⟨(closesAt_plain_iff ho hc).mpr (ih hk).1, (staysOpen_plain_iff ho hc).mpr (ih hk).2⟩

theorem not_closesAt_of_tokensBeforeClosing? (h : opening ≠ closing)
    (hn : tokensBeforeClosing? opening closing depth ts = none) :
    ¬ClosesAt opening closing (depth + 1) ts n := by
  fun_induction tokensBeforeClosing? opening closing depth ts generalizing n with
  | case1 => exact fun hcloses => nomatch hcloses.isClosing
  | case2 depth ts ih =>
      cases n with
      | zero => rw [closesAt_zero_iff h]; simp [h]
      | succ n => rw [closesAt_opening_iff h]; exact ih (Option.map_eq_none_iff.mp hn)
  | case3 => cases hn
  | case4 ts _ depth ih =>
      cases n with
      | zero => rw [closesAt_zero_iff h]; simp
      | succ n => rw [closesAt_closing_iff h]; exact ih (Option.map_eq_none_iff.mp hn)
  | case5 depth token ts ho hc ih =>
      cases n with
      | zero => rw [closesAt_zero_iff h]; exact fun heq => hc heq.1
      | succ n => rw [closesAt_plain_iff ho hc]; exact ih (Option.map_eq_none_iff.mp hn)

/-- The search on tokens ends in the first of them that makes the brackets even. -/
theorem tokensBeforeClosing?_eq_some_iff (h : opening ≠ closing) :
    tokensBeforeClosing? opening closing depth ts = some n ↔
      ClosesAt opening closing (depth + 1) ts n ∧
        ∀ m < n, ¬ClosesAt opening closing (depth + 1) ts m := by
  have hfirst {k : Nat} (hk : tokensBeforeClosing? opening closing depth ts = some k) :
      ∀ m < k, ¬ClosesAt opening closing (depth + 1) ts m := fun m hm hcloses => by
    have heven := hcloses.even
    have hopen := (closesAt_of_tokensBeforeClosing? h hk).2 (m + 1) hm
    omega
  refine ⟨fun hn => ⟨(closesAt_of_tokensBeforeClosing? h hn).1, hfirst hn⟩, ?_⟩
  rintro ⟨hcloses, hbefore⟩
  cases hk : tokensBeforeClosing? opening closing depth ts with
  | none => exact absurd hcloses (not_closesAt_of_tokensBeforeClosing? h hk)
  | some k =>
      obtain hlt | rfl | hgt := Nat.lt_trichotomy k n
      · exact absurd (closesAt_of_tokensBeforeClosing? h hk).1 (hbefore k hlt)
      · rfl
      · exact absurd hcloses (hfirst hk n hgt)

theorem tokensBeforeClosing?_eq_none_iff (h : opening ≠ closing) :
    tokensBeforeClosing? opening closing depth ts = none ↔
      ∀ n, ¬ClosesAt opening closing (depth + 1) ts n := by
  refine ⟨fun hn n => not_closesAt_of_tokensBeforeClosing? h hn, fun hno => ?_⟩
  cases hk : tokensBeforeClosing? opening closing depth ts with
  | none => rfl
  | some k => exact absurd (closesAt_of_tokensBeforeClosing? h hk).1 (hno k)

/-! ## The search on characters -/

/-- From inside a string the search goes on behind it. -/
theorem charsBeforeClosing?_takeString (q : Char) (depth : Nat) (s : List Char) :
    charsBeforeClosing? opening closing (some q) depth s =
      (charsBeforeClosing? opening closing none depth (takeString q s).2).map
        (· + (takeString q s).1.length) := by
  induction s using token_induction with
  | nil => rw [takeString_nil, charsBeforeClosing?_nil, charsBeforeClosing?_nil, Option.map_none]
  | slash =>
      rw [takeString_slash, charsBeforeClosing?_slash, charsBeforeClosing?_nil, Option.map_none]
  | escape c s ih =>
      rw [takeString_escape, charsBeforeClosing?_escape, ih, Option.map_map]
      rfl
  | char c s hc ih =>
      rw [takeString_cons hc, charsBeforeClosing?_inside hc]
      split
      · rfl
      · rw [ih, Option.map_map]
        rfl

theorem tokensBeforeClosing?_plain (ho : token ≠ [opening]) (hc : token ≠ [closing]) :
    tokensBeforeClosing? opening closing depth (token :: ts) =
      (tokensBeforeClosing? opening closing depth ts).map (· + 1) := by
  rw [tokensBeforeClosing?.eq_def]
  simp only [if_neg ho, if_neg hc]

theorem map_offset_cons (token : List Char) (ts : List (List Char)) (found : Option Nat) :
    (found.map (· + 1)).map (offset (token :: ts)) =
      (found.map (offset ts)).map (· + token.length) := by
  cases found <;> simp [Nat.add_comm]

/-- The search on characters ends in front of the token in which the search on tokens ends. -/
theorem charsBeforeClosing?_eq_tokens (hp : IsPair opening closing) (depth : Nat)
    (s : List Char) :
    charsBeforeClosing? opening closing none depth s =
      (tokensBeforeClosing? opening closing depth (tokens s)).map (offset (tokens s)) := by
  fun_induction tokens s generalizing depth with
  | case1 => rw [charsBeforeClosing?_nil, tokensBeforeClosing?, Option.map_none]
  | case2 =>
      rw [charsBeforeClosing?_slash, tokensBeforeClosing?_plain
        (by simpa using hp.opening_ne.symm) (by simpa using hp.closing_ne.symm)]
      rfl
  | case3 c rest ih =>
      rw [charsBeforeClosing?_escape, ih, tokensBeforeClosing?_plain (by simp) (by simp),
        map_offset_cons]
      rfl
  | case4 c rest hlast hmore hq ih =>
      have hne {x : Char} (hx : isQuote x = false) : c :: (takeString c rest).1 ≠ [x] := by
        rintro heq
        rw [(List.cons.inj heq).1, hx] at hq
        cases hq
      have hc : c ≠ '\\' := by
        rintro rfl
        cases hq
      rw [charsBeforeClosing?_outside hc, if_pos hq, charsBeforeClosing?_takeString, ih,
        tokensBeforeClosing?_plain (hne hp.isQuote_opening) (hne hp.isQuote_closing),
        map_offset_cons, Option.map_map]
      rfl
  | case5 c rest hlast hmore hq ih =>
      have hc := ne_slash_of_cases hlast hmore
      rw [charsBeforeClosing?_outside hc, if_neg hq, tokensBeforeClosing?.eq_def]
      simp only [List.cons.injEq, and_true]
      by_cases hopening : c = opening
      · rw [if_pos hopening, if_pos hopening, ih, map_offset_cons]
        rfl
      · rw [if_neg hopening, if_neg hopening]
        by_cases hclosing : c = closing
        · rw [if_pos hclosing, if_pos hclosing]
          cases depth with
          | zero => simp
          | succ depth =>
              dsimp only
              rw [ih, map_offset_cons]
              rfl
        · rw [if_neg hclosing, if_neg hclosing, ih, map_offset_cons]
          rfl

end Selector

end StylePrune
