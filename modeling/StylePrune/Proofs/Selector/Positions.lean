import Mathlib.Algebra.Group.Nat.Defs
import StylePrune.Proofs.Selector.Pseudo
import StylePrune.Proofs.Selector.Cursor
import StylePrune.Proofs.Selector.Spelling

/-!
# The passes by position and the passes on texts

Each pass by position ends, without a trap, in what the pass on texts makes of the text from
that position on, if it has a round for each character left and one more.
-/

namespace StylePrune

namespace Selector

open Text

/-- What stands in front of a result can be put there before or after the rest is read. -/
theorem map_eq_map_bind {α β γ : Type} {r : Except Fault α} {k : α → Except Fault β} {f : α → γ}
    {g : β → γ} (h : ∀ a, .ok (f a) = (k a).map g) : r.map f = (r >>= k).map g := by
  cases r with
  | error fault => rfl
  | ok a => exact h a

namespace Cursor

variable {limit rounds : Nat} {s : Array Char} {c : Char} {t : List Char} {i : Nat}

def suffix (s : Array Char) (i : Nat) : List Char :=
  s.toList.drop i

theorem suffix_toArray (t : List Char) : suffix t.toArray 0 = t := rfl

theorem suffix_add (s : Array Char) (i n : Nat) : suffix s (i + n) = (suffix s i).drop n := by
  rw [suffix, suffix, List.drop_drop]

theorem length_suffix (s : Array Char) (i : Nat) : (suffix s i).length = s.size - i := by
  rw [suffix, List.length_drop, Array.length_toList]

theorem getElem?_eq_head? (s : Array Char) (i : Nat) : s[i]? = (suffix s i).head? := by
  rw [suffix, List.head?_drop, Array.getElem?_toList]

theorem suffix_succ (h : suffix s i = c :: t) : suffix s (i + 1) = t := by
  rw [suffix_add, h, List.drop_one, List.tail_cons]

theorem suffix_succ_succ (h : suffix s i = c :: t) : suffix s (i + 2) = t.tail := by
  rw [suffix_add, h, List.drop_succ_cons, List.drop_one]

/-- What is left of a text is no longer than the text. -/
theorem length_lt_of_suffix (hl : s.size < limit) (h : suffix s i = t) : t.length < limit := by
  rw [← h, length_suffix]
  omega

theorem not_lt_of_suffix (h : suffix s i = []) : ¬i < s.size := by
  have := length_suffix s i
  rw [h, List.length_nil] at this
  omega

theorem lt_of_suffix (h : suffix s i = c :: t) : i < s.size := by
  have := length_suffix s i
  rw [h, List.length_cons] at this
  omega

/-- A position before the end can be read. -/
theorem charAt_of_suffix (h : suffix s i = c :: t) : charAt s i = pure c := by
  rw [charAt, getElem?_eq_head?, h, List.head?_cons]

theorem suffix_of_getElem? (h : s[i]? = some c) : suffix s i = c :: suffix s (i + 1) := by
  rw [getElem?_eq_head?] at h
  obtain ⟨t, ht⟩ := List.head?_eq_some_iff.mp h
  rw [ht, suffix_succ ht]

theorem cut_of_suffix {u v : List Char} (h : suffix s i = u ++ v) (hi : i ≤ s.size) :
    cut s i (i + u.length) = pure u := by
  have hlength := length_suffix s i
  rw [h, List.length_append] at hlength
  have hextract : (s.extract i (i + u.length)).toList = u := by
    rw [Array.toList_extract, List.extract_eq_take_drop, ← suffix, h, Nat.add_sub_cancel_left,
      List.take_left]
  rw [cut, if_pos (by omega), hextract]

/-! ## Rounds -/

theorem exists_round {k : Nat} (hn : k < rounds) : ∃ n, rounds = n + 1 :=
  Nat.exists_eq_add_one.mpr (Nat.zero_lt_of_lt hn)

theorem lt_of_cons_lt (hn : (c :: t).length < rounds + 1) : t.length < rounds :=
  Nat.lt_of_succ_lt_succ hn

theorem lt_of_cons_cons_lt {d : Char} (hn : (c :: d :: t).length < rounds + 1) :
    t.length < rounds :=
  Nat.lt_of_succ_lt (Nat.lt_of_succ_lt_succ hn)

/-! ## Brackets -/

theorem closing?_end (h : suffix s i = []) (hn : 0 < rounds) (opening closing : Char)
    (quote : Option Char) (depth : Nat) :
    closing? s opening closing rounds quote depth i = pure none := by
  obtain ⟨n, rfl⟩ := exists_round hn
  rw [closing?, if_neg (not_lt_of_suffix h)]

theorem closing?_slash (h : suffix s i = '\\' :: t) (opening closing : Char)
    (quote : Option Char) (depth : Nat) :
    closing? s opening closing (rounds + 1) quote depth i =
      closing? s opening closing rounds quote depth (i + 2) := by
  rw [closing?, if_pos (lt_of_suffix h), charAt_of_suffix h, pure_bind]
  cases quote <;> exact if_pos rfl

theorem map_add (found : Option Nat) (i k : Nat) :
    found.map (i + k + ·) = (found.map (· + k)).map (i + ·) := by
  cases found with
  | none => rfl
  | some n => simp only [Option.map_some, Nat.add_assoc, Nat.add_comm k n]

theorem closing?_eq {opening closing : Char} {quote : Option Char} {depth : Nat}
    (h : suffix s i = t) (hn : t.length < rounds) :
    closing? s opening closing rounds quote (depth + 1) i =
      pure ((charsBeforeClosing? opening closing quote depth t).map (i + ·)) := by
  -- the count is one above the depth of the search on texts, so it never goes below zero
  induction t using token_induction generalizing rounds quote depth i with
  | nil => rw [closing?_end h hn, charsBeforeClosing?_nil, Option.map_none]
  | slash =>
      obtain ⟨n, rfl⟩ := exists_round hn
      rw [closing?_slash h, closing?_end (suffix_succ_succ h) (lt_of_cons_lt hn),
        charsBeforeClosing?_slash, Option.map_none]
  | escape c t ih =>
      obtain ⟨n, rfl⟩ := exists_round hn
      rw [closing?_slash h, ih (suffix_succ_succ h) (lt_of_cons_cons_lt hn),
        charsBeforeClosing?_escape, map_add]
  | char c t hc ih =>
      obtain ⟨n, rfl⟩ := exists_round hn
      have hstep (quote : Option Char) (depth : Nat) :
          closing? s opening closing n quote (depth + 1) (i + 1) =
            pure (((charsBeforeClosing? opening closing quote depth t).map (· + 1)).map
              (i + ·)) := by
        rw [ih (suffix_succ h) (lt_of_cons_lt hn), map_add]
      rw [closing?, if_pos (lt_of_suffix h), charAt_of_suffix h, pure_bind]
      cases quote with
      | some q => simp only [if_neg hc, hstep, charsBeforeClosing?_inside hc]
      | none =>
          rw [charsBeforeClosing?_outside hc]
          simp only [if_neg hc, hstep, oneLess, pure_bind]
          split
          · rfl
          · split
            · rfl
            · split
              · cases depth with
                | zero => rfl
                | succ depth => simp only [Nat.succ_ne_zero, if_false, hstep]
              · rfl

/-- From a bracket on, the search ends in the place where the bracket closes. -/
theorem closing?_start {opening closing : Char} (hslash : opening ≠ '\\')
    (hquote : isQuote opening = false) (h : suffix s i = opening :: t)
    (hn : (opening :: t).length < rounds) :
    closing? s opening closing rounds none 0 i =
      pure ((charsBeforeClosing? opening closing none 0 t).map (i + 1 + ·)) := by
  obtain ⟨n, rfl⟩ := exists_round hn
  rw [closing?, if_pos (lt_of_suffix h), charAt_of_suffix h, pure_bind]
  simp only [if_neg hslash, hquote, Bool.false_eq_true, if_false, if_true]
  exact closing?_eq (suffix_succ h) (lt_of_cons_lt hn)

/-- Where no bracket is open, one that closes takes the count below zero. -/
theorem closing?_of_not_open {opening closing : Char} (hp : IsPair opening closing)
    (h : suffix s i = closing :: t) :
    closing? s opening closing (rounds + 1) none 0 i = throw .belowZero := by
  rw [closing?, if_pos (lt_of_suffix h), charAt_of_suffix h, pure_bind]
  simp only [if_neg hp.closing_ne, hp.isQuote_closing, Bool.false_eq_true, if_false,
    if_neg hp.ne.symm, if_true]
  rfl

theorem closing?_of_eq_none {opening closing : Char} (hslash : opening ≠ '\\')
    (hquote : isQuote opening = false) (h : suffix s i = opening :: t)
    (hn : (opening :: t).length < rounds) (hsplit : splitClosing? opening closing t = none) :
    closing? s opening closing rounds none 0 i = pure none := by
  rw [closing?_start hslash hquote h hn, Option.map_eq_none_iff.mp hsplit, Option.map_none]

/-- Both sides of the place where a bracket closes can be cut out. -/
theorem closing?_of_eq_some {opening closing : Char} {inside after : List Char}
    (hslash : opening ≠ '\\') (hquote : isQuote opening = false)
    (h : suffix s i = opening :: t) (hn : (opening :: t).length < rounds)
    (hsplit : splitClosing? opening closing t = some (inside, after)) :
    ∃ j, closing? s opening closing rounds none 0 i = pure (some j) ∧
      cut s (i + 1) j = pure inside ∧ suffix s (j + 1) = after := by
  obtain ⟨n, hclosing, heq⟩ := Option.map_eq_some_iff.mp hsplit
  obtain ⟨rfl, rfl⟩ := Prod.mk.inj heq
  have hlt := charsBeforeClosing?_lt hclosing
  have hnext := suffix_succ h
  refine ⟨i + 1 + n, ?_, ?_, ?_⟩
  · rw [closing?_start hslash hquote h hn, hclosing, Option.map_some]
  · have hcut := cut_of_suffix (hnext.trans (List.take_append_drop n t).symm) (lt_of_suffix h)
    rwa [List.length_take_of_le (Nat.le_of_lt hlt)] at hcut
  · rw [Nat.add_assoc, suffix_add, hnext]

/-! ## Names -/

theorem skipName_eq (h : suffix s i = t) (hn : t.length < rounds) :
    skipName s rounds i = pure (i + (t.takeWhile isNameChar).length) := by
  induction t generalizing rounds i with
  | nil =>
      obtain ⟨n, rfl⟩ := exists_round hn
      rw [skipName, if_neg (not_lt_of_suffix h)]
      rfl
  | cons c t ih =>
      obtain ⟨n, rfl⟩ := exists_round hn
      rw [skipName, if_pos (lt_of_suffix h), charAt_of_suffix h, pure_bind]
      cases hc : isNameChar c with
      | true =>
          rw [if_pos rfl, ih (suffix_succ h) (lt_of_cons_lt hn), List.takeWhile_cons_of_pos hc,
            List.length_cons]
          congr 1
          omega
      | false =>
          rw [List.takeWhile_cons_of_neg (by simp [hc])]
          rfl

theorem suffix_skipName (h : suffix s i = t) :
    suffix s (i + (t.takeWhile isNameChar).length) = t.dropWhile isNameChar := by
  rw [suffix_add, h]
  calc t.drop (t.takeWhile isNameChar).length
      = (t.takeWhile isNameChar ++ t.dropWhile isNameChar).drop
          (t.takeWhile isNameChar).length := by rw [List.takeWhile_append_dropWhile]
    _ = t.dropWhile isNameChar := List.drop_left

theorem hexValue_lt {c : Char} (h : isHexDigit c = true) : hexValue c < 16 := by
  have hrange := isHexDigit_iff.mp h
  have h0 : '0'.toNat = 48 := rfl
  have ha : 'a'.toNat = 97 := rfl
  have hf : 'f'.toNat = 102 := rfl
  have hA : 'A'.toNat = 65 := rfl
  simp only [hexValue, isDigit_iff, le_iff_toNat_le]
  split
  · omega
  · split <;> omega

/-- Eight hexadecimal digits fit into 32 bits. -/
theorem foldlM_pushDigit {digits : List Char} (hdigits : ∀ d ∈ digits, isHexDigit d = true)
    {n : UInt32} {k : Nat} (hn : n.toNat < 16 ^ k) (hk : k + digits.length ≤ 8) :
    ∃ w : UInt32, digits.foldlM pushDigit n = pure w ∧
      w.toNat = digits.foldl (fun n c => 16 * n + hexValue c) n.toNat := by
  induction digits generalizing n k with
  | nil => exact ⟨n, rfl, rfl⟩
  | cons d ds ih =>
      rw [List.length_cons] at hk
      have hd := hexValue_lt (hdigits d List.mem_cons_self)
      have hlt : 16 * n.toNat + hexValue d < 16 ^ (k + 1) := by rw [Nat.pow_succ]; omega
      have hsize : 16 * n.toNat + hexValue d < UInt32.size :=
        Nat.lt_of_lt_of_le hlt (Nat.pow_le_pow_right (by decide) (by omega : k + 1 ≤ 8))
      have hpush : pushDigit n d = pure (UInt32.ofNat (16 * n.toNat + hexValue d)) := if_pos hsize
      have htoNat := UInt32.toNat_ofNat_of_lt' hsize
      obtain ⟨w, hw, hvalue⟩ := ih (fun x hx => hdigits x (List.mem_cons_of_mem d hx))
        (htoNat.symm ▸ hlt) (by omega)
      refine ⟨w, ?_, ?_⟩
      · rw [List.foldlM_cons, hpush, pure_bind, hw]
      · rw [hvalue, htoNat, List.foldl_cons]

/-- The digits of an escape are never too many. -/
theorem hexWord_eq {digits : List Char} (h : IsCode digits) :
    ∃ w : UInt32, hexWord digits = pure w ∧ w.toNat = hexNumber digits :=
  foldlM_pushDigit h.isHexDigit (k := 0) (by decide) (by have := h.length_le; omega)

theorem isCode_escapeDigits (h : escapeDigits t ≠ []) : IsCode (escapeDigits t) where
  ne_nil := h
  length_le := by
    have htake := (List.takeWhile_prefix isHexDigit (l := t.take 6)).length_le
    have := List.length_take_le 6 t
    rw [escapeDigits]
    omega
  isHexDigit := List.all_eq_true.mp List.all_takeWhile

theorem cut_to_end (h : i ≤ s.size) : cut s i s.size = pure (suffix s i) := by
  have hcut := cut_of_suffix (List.append_nil (suffix s i)).symm h
  rwa [length_suffix, Nat.add_sub_cancel' h] at hcut

theorem suffix_skipBlank (s : Array Char) (i : Nat) :
    suffix s (skipBlank s i) = dropOneBlank (suffix s i) := by
  rw [skipBlank, getElem?_eq_head?]
  cases hi : suffix s i with
  | nil => simp [hi, dropOneBlank]
  | cons c t => cases hc : isBlank c <;> simp [dropOneBlank, hc, hi, suffix_succ hi]

/-- Behind a backslash the program reads the character that the escape stands for. -/
theorem readName_escape {rest tail : List Char} {x : Char} (h : suffix s i = '\\' :: rest)
    (hx : readEscape? rest = some (x, tail)) (rounds : Nat) (name : List Char) :
    ∃ j, readName s (rounds + 1) name i = readName s rounds (name ++ [x]) j ∧
      suffix s j = tail := by
  obtain _ | ⟨d, rest⟩ := rest
  · cases hx
  have hnext := suffix_succ h
  have hlt := lt_of_suffix hnext
  have hstep : readName s (rounds + 1) name i = (do
      let digits := escapeDigits (d :: rest)
      if digits = [] then readName s rounds (name ++ [d]) (i + 2)
      else
        let number ← hexWord digits
        readName s rounds (name ++ [scalarOrReplacement number.toNat])
          (skipBlank s (i + 1 + digits.length))) := by
    rw [readName, if_pos (lt_of_suffix h), charAt_of_suffix h, pure_bind, if_neg (by decide),
      if_pos ⟨rfl, hlt⟩, cut_to_end (Nat.le_of_lt hlt), pure_bind, hnext, charAt_of_suffix hnext,
      pure_bind]
  rw [hstep]
  rw [readEscape?] at hx
  cases hdigits : escapeDigits (d :: rest) with
  | nil =>
      rw [hdigits] at hx
      obtain ⟨rfl, rfl⟩ := Prod.mk.inj (Option.some.inj hx)
      exact ⟨i + 2, if_pos rfl, suffix_succ hnext⟩
  | cons e digits =>
      rw [hdigits] at hx
      obtain ⟨rfl, rfl⟩ := Prod.mk.inj (Option.some.inj hx)
      have hcode : IsCode (e :: digits) := hdigits ▸ isCode_escapeDigits (by simp [hdigits])
      obtain ⟨w, hw, hvalue⟩ := hexWord_eq hcode
      refine ⟨skipBlank s (i + 1 + (e :: digits).length), ?_, ?_⟩
      · simp only [if_neg hcode.ne_nil, hw, pure_bind, hvalue]
      · rw [suffix_skipBlank, suffix_add, hnext, List.length_cons, List.drop_succ_cons]

theorem readName_eq (h : suffix s i = t) (hn : t.length < rounds) (name : List Char) :
    ∃ j, readName s rounds name i = pure (name ++ (Selector.readName t).1, j) ∧
      suffix s j = (Selector.readName t).2 := by
  fun_induction Selector.readName t generalizing rounds i name with
  | case1 =>
      obtain ⟨n, rfl⟩ := exists_round hn
      refine ⟨i, ?_, h⟩
      rw [readName, if_neg (not_lt_of_suffix h), List.append_nil]
  | case2 c rest hname =>
      rename_i ih
      obtain ⟨n, rfl⟩ := exists_round hn
      obtain ⟨j, hj, hrest⟩ := ih (suffix_succ h) (lt_of_cons_lt hn) (name ++ [c])
      refine ⟨j, ?_, hrest⟩
      rw [readName, if_pos (lt_of_suffix h), charAt_of_suffix h, pure_bind, if_pos hname, hj,
        List.append_assoc]
      rfl
  | case3 rest hx hname =>
      obtain ⟨n, rfl⟩ := exists_round hn
      obtain rfl : rest = [] := by
        cases rest with
        | nil => rfl
        | cons d rest => rw [readEscape?] at hx; split at hx <;> cases hx
      refine ⟨i, ?_, h⟩
      have hend := not_lt_of_suffix (suffix_succ h)
      rw [readName, if_pos (lt_of_suffix h), charAt_of_suffix h, pure_bind, if_neg hname,
        if_neg fun hc => hend hc.2, List.append_nil]
  | case4 rest x tail hx =>
      rename_i ih
      obtain ⟨n, rfl⟩ := exists_round hn
      have htail_lt := Nat.lt_trans (length_readEscape?_lt hx) (lt_of_cons_lt hn)
      obtain ⟨k, hk, htail⟩ := readName_escape h hx n name
      obtain ⟨j, hj, hrest⟩ := ih htail htail_lt (name ++ [x])
      refine ⟨j, ?_, hrest⟩
      rw [hk, hj, List.append_assoc]
      rfl
  | case5 c rest hname hslash =>
      obtain ⟨n, rfl⟩ := exists_round hn
      refine ⟨i, ?_, h⟩
      rw [readName, if_pos (lt_of_suffix h), charAt_of_suffix h, pure_bind, if_neg hname,
        if_neg fun hc => hslash hc.1, List.append_nil]

/-! ## The passes -/

theorem escapeAt_eq (h : suffix s i = '\\' :: t) : escapeAt s i = '\\' :: t.head?.toList := by
  rw [escapeAt, getElem?_eq_head?, suffix_succ h]

theorem suffix_skipColon (s : Array Char) (i : Nat) :
    suffix s (skipColon s i) = dropColon (suffix s i) := by
  rw [skipColon, getElem?_eq_head?]
  cases hi : suffix s i with
  | nil => simp [hi, dropColon]
  | cons c t =>
      by_cases hc : c = ':'
      · subst hc
        simp [dropColon, suffix_succ hi]
      · simp [hc, hi, dropColon]

theorem startsPseudo_eq_false_iff (t : List Char) :
    startsPseudo t = false ↔ (dropColon t).takeWhile isNameChar = [] := by
  rw [startsPseudo]
  cases dropColon t with
  | nil => simp
  | cons c t => cases hc : isNameChar c <;> simp [hc]

/-- The pass at a character that it copies. -/
theorem withoutPseudo_cons (hl : s.size < limit) (h : suffix s i = c :: t) (hc : c ≠ '\\')
    (hp : ¬(c = ':' ∧ startsPseudo t = true)) (out : List Char) :
    withoutPseudo limit s (rounds + 1) out i =
      withoutPseudo limit s rounds (out ++ [c]) (i + 1) := by
  rw [withoutPseudo, if_pos (lt_of_suffix h), charAt_of_suffix h, pure_bind, if_neg hc]
  by_cases hcolon : c = ':'
  · have hname : (dropColon t).takeWhile isNameChar = [] :=
      (startsPseudo_eq_false_iff t).mp (by simpa [hcolon] using hp)
    rw [if_neg (not_not_intro hcolon), skipName_eq rfl (length_lt_of_suffix hl rfl), pure_bind,
      suffix_skipColon, suffix_succ h, hname, List.length_nil, if_pos (Nat.add_zero _)]
  · rw [if_pos hcolon]

/-- The pass at the colon of a pseudo-class, with the position after its name. -/
theorem withoutPseudo_colon (hl : s.size < limit) (h : suffix s i = ':' :: t)
    (hp : startsPseudo t = true) (out : List Char) :
    ∃ j, suffix s j = dropPseudoName t ∧
      withoutPseudo limit s (rounds + 1) out i =
        if s[j]? = some '(' then do
          match ← closing? s '(' ')' limit none 0 j with
          | none => return .error .unbalancedParenthesis
          | some close => withoutPseudo limit s rounds out (close + 1)
        else withoutPseudo limit s rounds out j := by
  have hstart : suffix s (skipColon s (i + 1)) = dropColon t := by
    rw [suffix_skipColon, suffix_succ h]
  have hname : (dropColon t).takeWhile isNameChar ≠ [] := fun hnil => by
    rw [(startsPseudo_eq_false_iff t).mpr hnil] at hp
    cases hp
  refine ⟨_, suffix_skipName hstart, ?_⟩
  rw [withoutPseudo, if_pos (lt_of_suffix h), charAt_of_suffix h, pure_bind,
    if_neg (by decide), if_neg (by decide),
    skipName_eq hstart (length_lt_of_suffix hl hstart), pure_bind]
  have hpos := List.length_pos_iff.mpr hname
  exact if_neg (by omega)

theorem withoutPseudo_slash (h : suffix s i = '\\' :: t) (out : List Char) :
    withoutPseudo limit s (rounds + 1) out i =
      withoutPseudo limit s rounds (out ++ '\\' :: t.head?.toList) (i + 2) := by
  rw [withoutPseudo, if_pos (lt_of_suffix h), charAt_of_suffix h, pure_bind, if_pos rfl,
    escapeAt_eq h]

theorem withoutPseudo_end (h : suffix s i = []) (hn : 0 < rounds) (out : List Char) :
    withoutPseudo limit s rounds out i = pure (.ok out) := by
  obtain ⟨n, rfl⟩ := exists_round hn
  rw [withoutPseudo, if_neg (not_lt_of_suffix h)]

theorem withoutPseudo_eq (hl : s.size < limit) (h : suffix s i = t) (hn : t.length < rounds)
    (out : List Char) :
    withoutPseudo limit s rounds out i = pure ((Selector.withoutPseudo t).map (out ++ ·)) := by
  -- a loop inside the pass has the whole limit, the pass itself the rounds that are left
  fun_induction Selector.withoutPseudo t generalizing rounds i out with
  | case1 =>
      rw [withoutPseudo_end h hn, Except.map, List.append_nil]
  | case2 =>
      obtain ⟨n, rfl⟩ := exists_round hn
      rw [withoutPseudo_slash h, withoutPseudo_end (suffix_succ_succ h) (lt_of_cons_lt hn)]
      rfl
  | case3 c rest ih =>
      obtain ⟨n, rfl⟩ := exists_round hn
      rw [withoutPseudo_slash h, ih (suffix_succ_succ h) (lt_of_cons_cons_lt hn)]
      exact congrArg pure (map_eq_map_bind fun left => congrArg _ (List.append_assoc _ _ left))
  | case4 c rest _ _ hp argument harg inside after hclose ih =>
      obtain ⟨n, rfl⟩ := exists_round hn
      obtain ⟨rfl, hp⟩ := hp
      obtain ⟨j, hj, hstep⟩ := withoutPseudo_colon hl h hp out
      rw [harg] at hj
      obtain ⟨k, hk, -, hafter⟩ :=
        closing?_of_eq_some (by decide) rfl hj (length_lt_of_suffix hl hj) hclose
      have hafter_lt : after.length < n := by
        have hargument := length_dropPseudoName_le rest
        have hinside := length_splitClosing?_lt hclose
        have hrest := lt_of_cons_lt hn
        rw [harg, List.length_cons] at hargument
        omega
      rw [hstep, getElem?_eq_head?, hj, List.head?_cons, if_pos rfl, hk, pure_bind]
      exact ih hafter hafter_lt out
  | case5 c rest _ _ hp argument harg hopen =>
      obtain ⟨n, rfl⟩ := exists_round hn
      obtain ⟨rfl, hp⟩ := hp
      obtain ⟨j, hj, hstep⟩ := withoutPseudo_colon hl h hp out
      rw [harg] at hj
      rw [hstep, getElem?_eq_head?, hj, List.head?_cons, if_pos rfl,
        closing?_of_eq_none (by decide) rfl hj (length_lt_of_suffix hl hj) hopen]
      rfl
  | case6 c rest _ _ hp hbare ih =>
      obtain ⟨n, rfl⟩ := exists_round hn
      obtain ⟨rfl, hp⟩ := hp
      obtain ⟨j, hj, hstep⟩ := withoutPseudo_colon hl h hp out
      have hafter_lt := Nat.lt_of_le_of_lt (length_dropPseudoName_le rest) (lt_of_cons_lt hn)
      rw [hstep, if_neg, ih hj hafter_lt]
      intro hparen
      rw [suffix_of_getElem? hparen] at hj
      exact hbare _ hj.symm
  | case7 c rest hlast hmore hp ih =>
      obtain ⟨n, rfl⟩ := exists_round hn
      rw [withoutPseudo_cons hl h (ne_slash_of_cases hlast hmore) hp,
        ih (suffix_succ h) (lt_of_cons_lt hn)]
      exact congrArg pure (map_eq_map_bind fun left => congrArg _ (List.append_assoc _ _ left))

theorem takeAttributes_end (h : suffix s i = []) (hn : 0 < rounds) (names : List (List Char))
    (out : List Char) : takeAttributes limit s rounds names out i = pure (.ok (names, out)) := by
  obtain ⟨n, rfl⟩ := exists_round hn
  rw [takeAttributes, if_neg (not_lt_of_suffix h)]

theorem takeAttributes_slash (h : suffix s i = '\\' :: t) (names : List (List Char))
    (out : List Char) :
    takeAttributes limit s (rounds + 1) names out i =
      takeAttributes limit s rounds names (out ++ '\\' :: t.head?.toList) (i + 2) := by
  rw [takeAttributes, if_pos (lt_of_suffix h), charAt_of_suffix h, pure_bind, if_pos rfl,
    escapeAt_eq h]

/-- The pass at a character that it copies. -/
theorem takeAttributes_cons (h : suffix s i = c :: t) (hslash : c ≠ '\\') (hc : c ≠ '[')
    (names : List (List Char)) (out : List Char) :
    takeAttributes limit s (rounds + 1) names out i =
      takeAttributes limit s rounds names (out ++ [c]) (i + 1) := by
  rw [takeAttributes, if_pos (lt_of_suffix h), charAt_of_suffix h, pure_bind, if_neg hslash,
    if_pos hc]

/-- The pass at a bracket that does not close. -/
theorem takeAttributes_of_open (h : suffix s i = '[' :: t)
    (hopen : closing? s '[' ']' limit none 0 i = pure none) (names : List (List Char))
    (out : List Char) :
    takeAttributes limit s (rounds + 1) names out i = pure (.error .unbalancedBracket) := by
  rw [takeAttributes, if_pos (lt_of_suffix h), charAt_of_suffix h, pure_bind,
    if_neg (by decide), if_neg (by decide), hopen]
  rfl

/-- The pass at an attribute selector. -/
theorem takeAttributes_bracket {inside : List Char} {close : Nat} (h : suffix s i = '[' :: t)
    (hclose : closing? s '[' ']' limit none 0 i = pure (some close))
    (hcut : cut s (i + 1) close = pure inside) (names : List (List Char)) (out : List Char) :
    takeAttributes limit s (rounds + 1) names out i =
      if attrName inside = [] then pure (.error .namelessAttribute)
      else takeAttributes limit s rounds (names ++ [attrName inside]) out (close + 1) := by
  rw [takeAttributes, if_pos (lt_of_suffix h), charAt_of_suffix h, pure_bind,
    if_neg (by decide), if_neg (by decide), hclose, pure_bind]
  dsimp only
  rw [hcut, pure_bind]

theorem takeAttributes_eq (hl : s.size < limit) (h : suffix s i = t) (hn : t.length < rounds)
    (names : List (List Char)) (out : List Char) :
    takeAttributes limit s rounds names out i =
      pure ((Selector.takeAttributes t).map fun r => (names ++ r.1, out ++ r.2)) := by
  fun_induction Selector.takeAttributes t generalizing rounds i names out with
  | case1 =>
      rw [takeAttributes_end h hn, Except.map, List.append_nil, List.append_nil]
  | case2 =>
      obtain ⟨n, rfl⟩ := exists_round hn
      rw [takeAttributes_slash h, takeAttributes_end (suffix_succ_succ h) (lt_of_cons_lt hn),
        Except.map, List.append_nil]
      rfl
  | case3 c rest ih =>
      obtain ⟨n, rfl⟩ := exists_round hn
      rw [takeAttributes_slash h, ih (suffix_succ_succ h) (lt_of_cons_cons_lt hn)]
      refine congrArg pure (map_eq_map_bind fun r => ?_)
      rw [List.append_assoc]
      rfl
  | case4 rest hopen =>
      obtain ⟨n, rfl⟩ := exists_round hn
      have hnone := closing?_of_eq_none (by decide) rfl h (length_lt_of_suffix hl h) hopen
      rw [takeAttributes_of_open h hnone]
      rfl
  | case5 rest inside after hclose hname =>
      obtain ⟨n, rfl⟩ := exists_round hn
      obtain ⟨k, hk, hcut, -⟩ :=
        closing?_of_eq_some (by decide) rfl h (length_lt_of_suffix hl h) hclose
      rw [takeAttributes_bracket h hk hcut, if_pos hname]
      rfl
  | case6 rest inside after hclose hname _ _ ih =>
      obtain ⟨n, rfl⟩ := exists_round hn
      obtain ⟨k, hk, hcut, hafter⟩ :=
        closing?_of_eq_some (by decide) rfl h (length_lt_of_suffix hl h) hclose
      have hafter_lt := Nat.lt_trans (length_splitClosing?_lt hclose) (lt_of_cons_lt hn)
      rw [takeAttributes_bracket h hk hcut, if_neg hname, ih hafter hafter_lt]
      refine congrArg pure (map_eq_map_bind fun r => ?_)
      rw [List.append_assoc]
      rfl
  | case7 c rest hlast hmore hc ih =>
      obtain ⟨n, rfl⟩ := exists_round hn
      rw [takeAttributes_cons h (ne_slash_of_cases hlast hmore) hc,
        ih (suffix_succ h) (lt_of_cons_lt hn)]
      refine congrArg pure (map_eq_map_bind fun r => ?_)
      rw [List.append_assoc]
      rfl

theorem takePrefixed_end (h : suffix s i = []) (hn : 0 < rounds) (sigil : Char)
    (names : List (List Char)) (out : List Char) :
    takePrefixed limit s sigil rounds names out i = pure (names, out) := by
  obtain ⟨n, rfl⟩ := exists_round hn
  rw [takePrefixed, if_neg (not_lt_of_suffix h)]

theorem takePrefixed_slash (h : suffix s i = '\\' :: t) (sigil : Char)
    (names : List (List Char)) (out : List Char) :
    takePrefixed limit s sigil (rounds + 1) names out i =
      takePrefixed limit s sigil rounds names (out ++ '\\' :: t.head?.toList) (i + 2) := by
  rw [takePrefixed, if_pos (lt_of_suffix h), charAt_of_suffix h, pure_bind, if_pos rfl,
    escapeAt_eq h]

/-- The pass at a character that it copies. -/
theorem takePrefixed_cons {sigil : Char} (h : suffix s i = c :: t) (hslash : c ≠ '\\')
    (hc : c ≠ sigil) (names : List (List Char)) (out : List Char) :
    takePrefixed limit s sigil (rounds + 1) names out i =
      takePrefixed limit s sigil rounds names (out ++ [c]) (i + 1) := by
  rw [takePrefixed, if_pos (lt_of_suffix h), charAt_of_suffix h, pure_bind, if_neg hslash,
    if_pos hc]

/-- The pass at a sigil, with the position after the name behind it. -/
theorem takePrefixed_sigil (hl : s.size < limit) (h : suffix s i = c :: t) (hslash : c ≠ '\\')
    (names : List (List Char)) (out : List Char) :
    ∃ j, suffix s j = (Selector.readName t).2 ∧
      takePrefixed limit s c (rounds + 1) names out i =
        if (Selector.readName t).1 = [] then
          takePrefixed limit s c rounds names (out ++ [c]) (i + 1)
        else takePrefixed limit s c rounds (names ++ [(Selector.readName t).1]) out j := by
  obtain ⟨j, hj, hrest⟩ :=
    readName_eq (suffix_succ h) (length_lt_of_suffix hl (suffix_succ h)) []
  refine ⟨j, hrest, ?_⟩
  rw [takePrefixed, if_pos (lt_of_suffix h), charAt_of_suffix h, pure_bind, if_neg hslash,
    if_neg (not_not_intro rfl), hj, pure_bind]
  rfl

theorem takePrefixed_eq (hl : s.size < limit) (h : suffix s i = t) (hn : t.length < rounds)
    (sigil : Char) (names : List (List Char)) (out : List Char) :
    takePrefixed limit s sigil rounds names out i =
      pure (names ++ (Selector.takePrefixed sigil t).1,
        out ++ (Selector.takePrefixed sigil t).2) := by
  fun_induction Selector.takePrefixed sigil t generalizing rounds i names out with
  | case1 => rw [takePrefixed_end h hn, List.append_nil, List.append_nil]
  | case2 =>
      obtain ⟨n, rfl⟩ := exists_round hn
      rw [takePrefixed_slash h, takePrefixed_end (suffix_succ_succ h) (lt_of_cons_lt hn),
        List.append_nil]
      rfl
  | case3 c rest =>
      rename_i ih
      obtain ⟨n, rfl⟩ := exists_round hn
      rw [takePrefixed_slash h, ih (suffix_succ_succ h) (lt_of_cons_cons_lt hn),
        List.append_assoc]
      rfl
  | case4 rest hname _ hlast hmore =>
      rename_i ih
      obtain ⟨n, rfl⟩ := exists_round hn
      obtain ⟨j, -, hstep⟩ := takePrefixed_sigil hl h (ne_slash_of_cases hlast hmore) names out
      rw [hstep, if_pos hname, ih (suffix_succ h) (lt_of_cons_lt hn), List.append_assoc]
      rfl
  | case5 rest hname =>
      rename_i hlast hmore ih
      obtain ⟨n, rfl⟩ := exists_round hn
      obtain ⟨j, hrest, hstep⟩ := takePrefixed_sigil hl h (ne_slash_of_cases hlast hmore) names out
      have hrest_lt := Nat.lt_trans (length_readName_lt hname) (lt_of_cons_lt hn)
      rw [hstep, if_neg hname, ih hrest hrest_lt, List.append_assoc]
      rfl
  | case6 c rest hlast hmore hc =>
      rename_i ih
      obtain ⟨n, rfl⟩ := exists_round hn
      rw [takePrefixed_cons h (ne_slash_of_cases hlast hmore) hc,
        ih (suffix_succ h) (lt_of_cons_lt hn), List.append_assoc]
      rfl

theorem tagRuns_end (h : suffix s i = []) (hn : 0 < rounds) (tags : List (List Char))
    (current : List Char) :
    tagRuns s rounds tags current i = pure (tags ++ Selector.tagRuns current.reverse []) := by
  obtain ⟨n, rfl⟩ := exists_round hn
  rw [tagRuns, getElem?_eq_head?, h]
  cases current <;> simp [Selector.tagRuns]

theorem tagRuns_slash (h : suffix s i = '\\' :: t) (tags : List (List Char))
    (current : List Char) :
    tagRuns s (rounds + 1) tags current i = tagRuns s rounds tags current (i + 2) := by
  rw [tagRuns, getElem?_eq_head?, h]
  simp

theorem tagRuns_eq (h : suffix s i = t) (hn : t.length < rounds) (tags : List (List Char))
    (current : List Char) :
    tagRuns s rounds tags current i = pure (tags ++ Selector.tagRuns current.reverse t) := by
  induction t using token_induction generalizing rounds i tags current with
  | nil => exact tagRuns_end h hn tags current
  | slash =>
      obtain ⟨n, rfl⟩ := exists_round hn
      rw [tagRuns_slash h, tagRuns_end (suffix_succ_succ h) (lt_of_cons_lt hn)]
      simp [Selector.tagRuns]
  | escape c t ih =>
      obtain ⟨n, rfl⟩ := exists_round hn
      rw [tagRuns_slash h, ih (suffix_succ_succ h) (lt_of_cons_cons_lt hn)]
      simp [Selector.tagRuns]
  | char c t hc ih =>
      obtain ⟨n, rfl⟩ := exists_round hn
      rw [tagRuns, getElem?_eq_head?, h, List.head?_cons, tagRuns_cons hc]
      simp only [if_neg hc, ih (suffix_succ h) (lt_of_cons_lt hn), List.reverse_append,
        List.reverse_singleton, List.singleton_append, List.reverse_nil, List.isEmpty_reverse,
        List.reverse_reverse, List.append_assoc]
      split
      · rfl
      · split <;> rfl

/-! ## All passes -/

theorem length_le_of_withoutPseudo {plain : List Char}
    (h : Selector.withoutPseudo t = .ok plain) : plain.length ≤ t.length := by
  fun_induction Selector.withoutPseudo t generalizing plain with
  | case1 | case2 => cases h; exact Nat.le_refl _
  | case3 c rest ih =>
      obtain ⟨left, hrest, hleft⟩ := exists_of_bind_eq_ok h
      cases hleft
      exact Nat.succ_le_succ (Nat.succ_le_succ (ih hrest))
  | case4 c rest _ _ _ argument harg inside after hclose ih =>
      have hafter := ih h
      have hargument := length_dropPseudoName_le rest
      have hinside := length_splitClosing?_lt hclose
      rw [harg, List.length_cons] at hargument
      rw [List.length_cons]
      omega
  | case5 => cases h
  | case6 c rest _ _ _ _ ih =>
      exact Nat.le_succ_of_le (Nat.le_trans (ih h) (length_dropPseudoName_le rest))
  | case7 c rest _ _ _ ih =>
      obtain ⟨left, hrest, hleft⟩ := exists_of_bind_eq_ok h
      cases hleft
      exact Nat.succ_le_succ (ih hrest)

theorem length_le_of_takeAttributes {names : List (List Char)} {left : List Char}
    (h : Selector.takeAttributes t = .ok (names, left)) : left.length ≤ t.length := by
  fun_induction Selector.takeAttributes t generalizing names left with
  | case1 | case2 => cases h; exact Nat.le_refl _
  | case3 c rest ih =>
      obtain ⟨r, hrest, hr⟩ := exists_of_bind_eq_ok h
      cases hr
      exact Nat.succ_le_succ (Nat.succ_le_succ (ih hrest))
  | case4 | case5 => cases h
  | case6 rest inside after hclose _ _ _ ih =>
      obtain ⟨r, hafter, hr⟩ := exists_of_bind_eq_ok h
      cases hr
      have hinside := length_splitClosing?_lt hclose
      exact Nat.le_succ_of_le (Nat.le_trans (ih hafter) (Nat.le_of_lt hinside))
  | case7 c rest _ _ _ ih =>
      obtain ⟨r, hrest, hr⟩ := exists_of_bind_eq_ok h
      cases hr
      exact Nat.succ_le_succ (ih hrest)

theorem length_takePrefixed_le (sigil : Char) (t : List Char) :
    (Selector.takePrefixed sigil t).2.length ≤ t.length := by
  fun_induction Selector.takePrefixed sigil t with
  | case1 | case2 => exact Nat.le_refl _
  | case3 =>
      rename_i ih
      exact Nat.succ_le_succ (Nat.succ_le_succ ih)
  | case4 | case6 =>
      rename_i ih
      exact Nat.succ_le_succ ih
  | case5 rest =>
      rename_i ih
      exact Nat.le_succ_of_le (Nat.le_trans ih (length_readName_le rest))

theorem namesOf_eq (ht : t.length < limit) : namesOf limit t = pure (Selector.namesOf t) := by
  rw [namesOf, Selector.namesOf, withoutPseudo_eq ht (suffix_toArray t) ht, pure_bind]
  cases hplain : Selector.withoutPseudo t with
  | error fault => rfl
  | ok plain =>
      have hp := Nat.lt_of_le_of_lt (length_le_of_withoutPseudo hplain) ht
      simp only [Except.map, List.nil_append, takeAttributes_eq hp (suffix_toArray plain) hp,
        pure_bind]
      simp only [bind, Except.bind]
      cases hattrs : Selector.takeAttributes plain with
      | error fault => rfl
      | ok r =>
          have ha := Nat.lt_of_le_of_lt (length_le_of_takeAttributes hattrs) hp
          have hc := Nat.lt_of_le_of_lt (length_takePrefixed_le '.' r.2) ha
          have hi := Nat.lt_of_le_of_lt (length_takePrefixed_le '#' _) hc
          simp only [List.nil_append, takePrefixed_eq ha (suffix_toArray _) ha, pure, Except.pure]
          simp only [takePrefixed_eq hc (suffix_toArray _) hc, tagRuns_eq (suffix_toArray _) hi,
            List.nil_append, pure, Except.pure]
          rfl

end Cursor

end Selector

end StylePrune
