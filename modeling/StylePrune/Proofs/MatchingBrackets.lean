import StylePrune.Proofs.Selector.Positions
import StylePrune.Proofs.Selector.Tokens

/-!
# Matching brackets

The search for the bracket that closes another one finds the first token after it at which the
brackets of the kind are even, in any text: with brackets that never close, strings without an
end and a backslash that nothing follows.
-/

namespace StylePrune

namespace Selector

variable {opening closing : Char} {s : List Char} {start c n : Nat}

def tokensFrom (s : List Char) (start : Nat) : List (List Char) :=
  tokens (s.drop start)

theorem drop_of_getElem? {x : Char} (hs : s[start]? = some x) :
    s.drop start = x :: s.drop (start + 1) := by
  obtain ⟨hlt, rfl⟩ := List.getElem?_eq_some_iff.mp hs
  exact List.drop_eq_getElem_cons hlt

theorem tokensFrom_opening (hp : IsPair opening closing) (hs : s[start]? = some opening) :
    tokensFrom s start = [opening] :: tokensFrom s (start + 1) := by
  rw [tokensFrom, drop_of_getElem? hs, tokens_cons hp.opening_ne, hp.isQuote_opening]
  rfl

theorem flatten_tokensFrom (s : List Char) (start : Nat) :
    (tokensFrom s start).flatten = s.drop start :=
  flatten_tokens _

/-- From a bracket on, the brackets are even where the search behind it ends. -/
theorem closesAt_tokensFrom_iff (hp : IsPair opening closing) (hs : s[start]? = some opening) :
    ClosesAt opening closing 0 (tokensFrom s start) n ↔
      ∃ k, n = k + 1 ∧ ClosesAt opening closing 1 (tokensFrom s (start + 1)) k := by
  rw [tokensFrom_opening hp hs]
  cases n with
  | zero => simp [closesAt_zero_iff hp.ne]
  | succ n => simp [closesAt_opening_iff hp.ne]

theorem closingIndex?_eq (hp : IsPair opening closing) (hs : s[start]? = some opening) :
    closingIndex? opening closing s start =
      (tokensBeforeClosing? opening closing 0 (tokensFrom s (start + 1))).map fun k =>
        start + offset (tokensFrom s start) (k + 1) := by
  rw [closingIndex?, charsBeforeClosing?_eq_tokens hp, Option.map_map, tokensFrom_opening hp hs]
  congr 1
  funext k
  rw [Function.comp_apply, offset_cons, List.length_singleton, tokensFrom]
  omega

theorem closingIndex?_eq_some_iff (hp : IsPair opening closing) (hs : s[start]? = some opening) :
    closingIndex? opening closing s start = some c ↔
      ∃ n, ClosesAt opening closing 0 (tokensFrom s start) n ∧
        (∀ m < n, ¬ClosesAt opening closing 0 (tokensFrom s start) m) ∧
        c = start + offset (tokensFrom s start) n := by
  rw [closingIndex?_eq hp hs, Option.map_eq_some_iff]
  constructor
  · rintro ⟨k, hk, rfl⟩
    obtain ⟨hcloses, hfirst⟩ := (tokensBeforeClosing?_eq_some_iff hp.ne).mp hk
    refine ⟨k + 1, (closesAt_tokensFrom_iff hp hs).mpr ⟨k, rfl, hcloses⟩, fun m hm hm' => ?_, rfl⟩
    obtain ⟨j, rfl, hj⟩ := (closesAt_tokensFrom_iff hp hs).mp hm'
    exact hfirst j (Nat.lt_of_succ_lt_succ hm) hj
  · rintro ⟨n, hn, hfirst, rfl⟩
    obtain ⟨k, rfl, hk⟩ := (closesAt_tokensFrom_iff hp hs).mp hn
    refine ⟨k, (tokensBeforeClosing?_eq_some_iff hp.ne).mpr ⟨hk, fun j hj hj' => ?_⟩, rfl⟩
    exact hfirst (j + 1) (Nat.succ_lt_succ hj) ((closesAt_tokensFrom_iff hp hs).mpr ⟨j, rfl, hj'⟩)

theorem closingIndex?_eq_none_iff (hp : IsPair opening closing) (hs : s[start]? = some opening) :
    closingIndex? opening closing s start = none ↔
      ∀ n, ¬ClosesAt opening closing 0 (tokensFrom s start) n := by
  rw [closingIndex?_eq hp hs, Option.map_eq_none_iff, tokensBeforeClosing?_eq_none_iff hp.ne]
  simp only [closesAt_tokensFrom_iff hp hs, not_exists, not_and]
  exact ⟨fun h n k _ => h k, fun h k => h (k + 1) k rfl⟩

/-- Between a bracket and the one that closes it more brackets open than close. -/
theorem count_lt_of_closingIndex? (hp : IsPair opening closing) (hs : s[start]? = some opening)
    (hc : closingIndex? opening closing s start = some c) {m : Nat} (hm : 0 < m)
    (hle : start + offset (tokensFrom s start) m ≤ c) :
    ((tokensFrom s start).take m).count [closing] <
      ((tokensFrom s start).take m).count [opening] := by
  rw [closingIndex?_eq hp hs] at hc
  obtain ⟨k, hk, rfl⟩ := Option.map_eq_some_iff.mp hc
  obtain ⟨hcloses, hopen⟩ := closesAt_of_tokensBeforeClosing? hp.ne hk
  rw [tokensFrom_opening hp hs] at hle ⊢
  obtain ⟨j, rfl⟩ := Nat.exists_eq_add_one.mpr hm
  -- a prefix with the closing token in it reaches beyond that token
  have hj : j ≤ k := Nat.le_of_not_lt fun hlt => by
    have hmono := offset_mono (tokensFrom s (start + 1)) (show k + 1 ≤ j by omega)
    have hsucc := offset_succ hcloses.isClosing
    simp only [offset_cons, List.length_singleton] at hle hsucc
    omega
  have hcount := hopen j hj
  rw [List.take_succ_cons, List.count_cons_self,
    List.count_cons_of_ne (by simpa using hp.ne : [opening] ≠ [closing])]
  omega

theorem lt_of_closingIndex? (hc : closingIndex? opening closing s start = some c) : start < c := by
  obtain ⟨n, -, rfl⟩ := Option.map_eq_some_iff.mp hc
  omega

theorem closingIndex?_append (hs : s[start]? = some opening)
    (hc : closingIndex? opening closing s start = some c) (t : List Char) :
    closingIndex? opening closing (s ++ t) start = some c := by
  obtain ⟨hlt, -⟩ := List.getElem?_eq_some_iff.mp hs
  obtain ⟨n, hn, rfl⟩ := Option.map_eq_some_iff.mp hc
  rw [closingIndex?, List.drop_append_of_le_length hlt,
    charsBeforeClosing?_append_of_eq_some hn, Option.map_some]

/-- The text behind a bracket is split where the bracket closes. -/
theorem splitClosing?_eq_closingIndex? (opening closing : Char) (s : List Char) (start : Nat) :
    splitClosing? opening closing (s.drop (start + 1)) =
      (closingIndex? opening closing s start).map fun c =>
        ((s.take c).drop (start + 1), s.drop (c + 1)) := by
  rw [splitClosing?, closingIndex?, Option.map_map]
  congr 1
  funext n
  rw [Function.comp_apply, List.drop_take, List.drop_drop, Nat.add_sub_cancel_left]
  rfl

/-- The search by position takes one round for each character from the bracket on, at most. -/
theorem closing?_eq_closingIndex? (hp : IsPair opening closing) (hs : s[start]? = some opening)
    {rounds : Nat} (hn : (s.drop start).length < rounds) :
    Cursor.closing? s.toArray opening closing rounds none 0 start =
      pure (closingIndex? opening closing s start) :=
  Cursor.closing?_start hp.opening_ne hp.isQuote_opening (drop_of_getElem? hs)
    (drop_of_getElem? hs ▸ hn)

/--
In the tokens of the text from an opening bracket on, the search finds the first closing one at
which the brackets are even, and nothing exactly if there is none.  The place it finds is behind
the opening bracket, and every prefix between the two opens more than it closes.  Text at the
end does not move it, the passes split the text there, and the search by position ends there.
-/
theorem closingIndex?_matches (hp : IsPair opening closing) (hs : s[start]? = some opening) :
    (tokensFrom s start).flatten = s.drop start ∧
    (∀ c, closingIndex? opening closing s start = some c ↔
      ∃ n, ClosesAt opening closing 0 (tokensFrom s start) n ∧
        (∀ m < n, ¬ClosesAt opening closing 0 (tokensFrom s start) m) ∧
        c = start + offset (tokensFrom s start) n) ∧
    (closingIndex? opening closing s start = none ↔
      ∀ n, ¬ClosesAt opening closing 0 (tokensFrom s start) n) ∧
    (∀ c, closingIndex? opening closing s start = some c →
      start < c ∧
      (∀ m, 0 < m → start + offset (tokensFrom s start) m ≤ c →
        ((tokensFrom s start).take m).count [closing] <
          ((tokensFrom s start).take m).count [opening]) ∧
      ∀ t, closingIndex? opening closing (s ++ t) start = some c) ∧
    splitClosing? opening closing (s.drop (start + 1)) =
      (closingIndex? opening closing s start).map (fun c =>
        ((s.take c).drop (start + 1), s.drop (c + 1))) ∧
    ∀ rounds, (s.drop start).length < rounds →
      Cursor.closing? s.toArray opening closing rounds none 0 start =
        pure (closingIndex? opening closing s start) :=
  ⟨flatten_tokensFrom s start, fun _ => closingIndex?_eq_some_iff hp hs,
    closingIndex?_eq_none_iff hp hs,
    fun _ hc => ⟨lt_of_closingIndex? hc, fun _ => count_lt_of_closingIndex? hp hs hc,
      closingIndex?_append hs hc⟩,
    splitClosing?_eq_closingIndex? opening closing s start,
    fun _ => closing?_eq_closingIndex? hp hs⟩

/-- Brackets in a string, behind a backslash and in a string with an escaped quote do not count. -/
theorem closingIndex?_matches_nested :
    IsPair '(' ')' ∧ "a(\")\\\")\"\\)(b))c)".toList[1]? = some '(' ∧
      closingIndex? '(' ')' "a(\")\\\")\"\\)(b))c)".toList 1 = some 13 ∧
      ∃ n, ClosesAt '(' ')' 0 (tokensFrom "a(\")\\\")\"\\)(b))c)".toList 1) n ∧
        (∀ m < n, ¬ClosesAt '(' ')' 0 (tokensFrom "a(\")\\\")\"\\)(b))c)".toList 1) m) ∧
        13 = 1 + offset (tokensFrom "a(\")\\\")\"\\)(b))c)".toList 1) n := by
  have hs : "a(\")\\\")\"\\)(b))c)".toList[1]? = some '(' := by decide
  have hc : closingIndex? '(' ')' "a(\")\\\")\"\\)(b))c)".toList 1 = some 13 := by decide
  exact ⟨isPair_round, hs, hc, ((closingIndex?_matches isPair_round hs).2.1 13).mp hc⟩

end Selector

end StylePrune
