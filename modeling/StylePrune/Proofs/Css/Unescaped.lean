import Mathlib.Data.List.TakeWhile
import StylePrune.Proofs.Selector.Letter

/-!
# White space at the end of printed text

White space at the end of a text belongs to an identifier if a backslash stands in front of
it.  Trimming that knows nothing of backslashes is compared with trimming that does.
-/

namespace StylePrune

namespace Css

open Text

/-- The text without the white space at its end, up to a blank behind a backslash. -/
def trimUnescaped : List Char → List Char
  | [] => []
  | '\\' :: c :: rest => '\\' :: c :: trimUnescaped rest
  | c :: rest =>
      if Lexer.isSpace c && (trimUnescaped rest).isEmpty then [] else c :: trimUnescaped rest

theorem isBlank_of_isSpace {c : Char} (h : Lexer.isSpace c = true) : isBlank c = true :=
  Selector.Space.isBlank ⟨c, h⟩

theorem trimUnescaped_cons {c : Char} (hc : c ≠ '\\') (s : List Char) :
    trimUnescaped (c :: s) =
      if Lexer.isSpace c && (trimUnescaped s).isEmpty then [] else c :: trimUnescaped s :=
  trimUnescaped.eq_3 _ _ fun _ _ h _ => hc h

/-- Only white space is taken away. -/
theorem exists_eq_trimUnescaped_append (s : List Char) :
    ∃ blanks, (∀ c ∈ blanks, Lexer.isSpace c = true) ∧ s = trimUnescaped s ++ blanks := by
  fun_induction trimUnescaped s with
  | case1 => exact ⟨[], nofun, rfl⟩
  | case2 c rest ih =>
      obtain ⟨blanks, hblanks, heq⟩ := ih
      exact ⟨blanks, hblanks, by rw [List.cons_append, List.cons_append, ← heq]⟩
  | case3 c rest hslash hc ih =>
      obtain ⟨hspace, hempty⟩ := Bool.and_eq_true_iff.mp hc
      obtain ⟨blanks, hblanks, heq⟩ := ih
      rw [List.isEmpty_iff.mp hempty, List.nil_append] at heq
      subst heq
      exact ⟨c :: rest, List.forall_mem_cons.mpr ⟨hspace, hblanks⟩, rfl⟩
  | case4 c rest hslash hc ih =>
      obtain ⟨blanks, hblanks, heq⟩ := ih
      exact ⟨blanks, hblanks, by rw [List.cons_append, ← heq]⟩

theorem trimUnescaped_snoc {c : Char} (hc : Lexer.isSpace c = false) (s : List Char) :
    trimUnescaped (s ++ [c]) = s ++ [c] := by
  obtain ⟨blanks, hblanks, heq⟩ := exists_eq_trimUnescaped_append (s ++ [c])
  rcases List.eq_nil_or_concat blanks with rfl | ⟨front, b, rfl⟩
  · rw [List.append_nil] at heq
    exact heq.symm
  · rw [List.concat_eq_append, ← List.append_assoc] at heq
    obtain ⟨-, hb⟩ := List.append_inj' heq rfl
    cases hb
    have hspace := hblanks c (by simp)
    rw [hc] at hspace
    cases hspace

theorem mem_trimUnescaped_iff {c : Char} (hc : Lexer.isSpace c = false) {s : List Char} :
    c ∈ trimUnescaped s ↔ c ∈ s := by
  obtain ⟨blanks, hblanks, heq⟩ := exists_eq_trimUnescaped_append s
  refine ⟨fun h => by rw [heq]; exact List.mem_append_left _ h, fun h => ?_⟩
  rw [heq] at h
  rcases List.mem_append.mp h with h | h
  · exact h
  · rw [hblanks c h] at hc
    cases hc

theorem trimEnd_eq_self_iff {s : List Char} :
    trimEnd s = s ↔ ∀ c ∈ s.getLast?, isBlank c = false := by
  rcases List.eq_nil_or_concat s with rfl | ⟨front, c, rfl⟩
  · simp
  · rw [List.concat_eq_append]
    cases hc : isBlank c with
    | false => simp [trimEnd_snoc hc, hc]
    | true =>
        have hlength := (isPrefix_trimEnd front).length_le
        refine iff_of_false (fun h => ?_) (by simp [hc])
        rw [trimEnd_append, if_pos (by simp [trimEnd, dropBlanks, hc])] at h
        rw [h, List.length_append, List.length_singleton] at hlength
        omega

/-- The two ways to trim agree unless a blank is left that trimming takes away. -/
theorem trimEnd_eq_trimUnescaped_iff {s : List Char} :
    trimEnd s = trimUnescaped s ↔ ∀ c ∈ (trimUnescaped s).getLast?, isBlank c = false := by
  obtain ⟨blanks, hblanks, heq⟩ := exists_eq_trimUnescaped_append s
  have hnil : trimEnd blanks = [] := by
    have hdrop : dropBlanks blanks.reverse = [] :=
      List.dropWhile_eq_nil_iff.mpr fun c hc => isBlank_of_isSpace (hblanks c (by simpa using hc))
    rw [trimEnd, hdrop]
    rfl
  have htrim : trimEnd s = trimEnd (trimUnescaped s) := by
    have happend := trimEnd_append (trimUnescaped s) blanks
    rwa [if_pos hnil, ← heq] at happend
  rw [htrim, trimEnd_eq_self_iff]

/-! ## Texts in parts -/

/-- No backslash is left without the character behind it. -/
inductive Units : List Char → Prop
  | nil : Units []
  | plain {c : Char} {s : List Char} (hc : c ≠ '\\') (hs : Units s) : Units (c :: s)
  | escape {c : Char} {s : List Char} (hs : Units s) : Units ('\\' :: c :: s)

namespace Units

variable {s t : List Char}

theorem append (hs : Units s) (ht : Units t) : Units (s ++ t) := by
  induction hs with
  | nil => exact ht
  | plain hc _ ih => exact .plain hc ih
  | escape _ ih => exact .escape ih

theorem of_not_mem (h : '\\' ∉ s) : Units s := by
  induction s with
  | nil => exact .nil
  | cons c rest ih =>
      obtain ⟨hc, hrest⟩ := not_or.mp (mt List.mem_cons.mpr h)
      exact .plain (Ne.symm hc) (ih hrest)

/-- Behind whole units a text keeps what it keeps alone. -/
theorem trimUnescaped_append (hs : Units s) (ht : trimUnescaped t ≠ []) :
    trimUnescaped (s ++ t) = s ++ trimUnescaped t := by
  induction hs with
  | nil => rfl
  | @plain c s hc _ ih =>
      rw [List.cons_append, trimUnescaped_cons hc, ih, if_neg (by simp [ht])]
      rfl
  | escape _ ih =>
      rw [List.cons_append, List.cons_append, trimUnescaped, ih]
      rfl

end Units

open Selector (Letter)

theorem ne_backslash_of_isSpace {c : Char} (h : Lexer.isSpace c = true) : c ≠ '\\' := by
  rintro rfl
  cases h

theorem isSpace_of_isNameChar {c : Char} (h : Selector.isNameChar c = true) :
    Lexer.isSpace c = false := by
  rw [← Bool.not_eq_true]
  intro hc
  have hname := Selector.Space.isNameChar ⟨c, hc⟩
  rw [h] at hname
  cases hname

/-- Characters of names stay, whatever is behind them. -/
theorem trimUnescaped_append_of_isNameChar {s : List Char}
    (h : ∀ c ∈ s, Selector.isNameChar c = true) (t : List Char) :
    trimUnescaped (s ++ t) = s ++ trimUnescaped t := by
  induction s with
  | nil => rfl
  | cons c rest ih =>
      obtain ⟨hc, hrest⟩ := List.forall_mem_cons.mp h
      rw [List.cons_append, trimUnescaped_cons (Selector.ne_of_isNameChar hc (by decide)),
        isSpace_of_isNameChar hc, ih hrest]
      rfl

theorem trimUnescaped_gap (gap : Option Selector.Space) :
    trimUnescaped (gap.toList.map Selector.Space.char) = [] := by
  cases gap with
  | none => rfl
  | some b =>
      change trimUnescaped [b.char] = []
      rw [trimUnescaped_cons (ne_backslash_of_isSpace b.isSpace), b.isSpace]
      rfl

theorem units_print (l : Letter) : Units l.print := by
  cases l with
  | plain c hc => exact .plain (Selector.ne_of_isNameChar hc (by decide)) .nil
  | escaped c => exact .escape .nil
  | coded digits hd gap =>
      obtain ⟨d, ds, rfl⟩ := List.exists_cons_of_ne_nil hd.ne_nil
      refine .escape (.of_not_mem fun hmem => ?_)
      rcases List.mem_append.mp hmem with hmem | hmem
      · have hname := Selector.isNameChar_of_isHexDigit
          (hd.isHexDigit _ (List.mem_cons_of_mem d hmem))
        cases hname
      · obtain ⟨b, -, hb⟩ := List.mem_map.mp hmem
        exact ne_backslash_of_isSpace b.isSpace hb

theorem trimUnescaped_print (l : Letter) : trimUnescaped l.print = l.withoutGap.print := by
  cases l with
  | plain c hc => exact trimUnescaped_append_of_isNameChar (List.forall_mem_singleton.mpr hc) []
  | escaped c => rfl
  | coded digits hd gap =>
      obtain ⟨d, ds, rfl⟩ := List.exists_cons_of_ne_nil hd.ne_nil
      have hname : ∀ c ∈ ds, Selector.isNameChar c = true := fun c hc =>
        Selector.isNameChar_of_isHexDigit (hd.isHexDigit c (List.mem_cons_of_mem d hc))
      change '\\' :: d :: trimUnescaped (ds ++ gap.toList.map Selector.Space.char) =
        '\\' :: d :: (ds ++ [])
      rw [trimUnescaped_append_of_isNameChar hname, trimUnescaped_gap]

/-- Without the white space that ends an escape, a letter ends in a blank if it is one. -/
theorem isBlank_getLast?_withoutGap_iff (l : Letter) :
    (∀ c ∈ l.withoutGap.print.getLast?, isBlank c = false) ↔ l.isWrittenBlank = false := by
  cases l with
  | plain c hc => simp [Letter.withoutGap, Letter.print, Letter.isWrittenBlank]
  | escaped c => simp [Letter.withoutGap, Letter.print, Letter.isWrittenBlank]
  | coded digits hd gap =>
      refine iff_of_true (fun c hc => ?_) rfl
      have hmem : c ∈ '\\' :: digits := by
        simpa [Letter.withoutGap, Letter.print] using List.mem_of_getLast? hc
      rw [← Bool.not_eq_true]
      intro hb
      rcases List.mem_cons.mp hmem with rfl | hdigit
      · cases hb
      · have hhex := Selector.isHexDigit_eq_false_of_isBlank hb
        rw [hd.isHexDigit c hdigit] at hhex
        cases hhex

/-- A text that ends in a letter keeps the letter, without the white space that ends an escape. -/
theorem Units.trimUnescaped_append_letter {s : List Char} (hs : Units s) (l : Letter) :
    trimUnescaped (s ++ l.print) = s ++ l.withoutGap.print := by
  obtain ⟨c, t, hc⟩ := l.withoutGap.print_eq_cons
  rw [hs.trimUnescaped_append, trimUnescaped_print]
  rw [trimUnescaped_print, hc]
  exact List.cons_ne_nil c t

end Css

end StylePrune
