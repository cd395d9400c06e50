import Mathlib.Data.List.Forall2
import StylePrune.Css.Piece
import StylePrune.Proofs.Css.Unescaped

/-!
# Printed identifiers

A printed identifier letter by letter: which characters of the name are escaped, and how.
-/

namespace StylePrune

namespace Css

open Text
open Selector (Letter isNameChar isCode_hexDigits hexEscape printLetters printLetters_cons
  serializeChar serializeChars serializeLead serializeName)

/-- A character as the number that it has, with a space behind it. -/
def codeLetter (c : Char) (h : c.toNat < 128) : Letter :=
  .coded (hexDigits c.toNat) (isCode_hexDigits h).1 (some ⟨' ', rfl⟩)

theorem toNat_lt_of_isNewline {c : Char} (h : Lexer.isNewline c = true) : c.toNat < 0x20 := by
  simp only [Lexer.isNewline, Bool.or_eq_true, beq_iff_eq] at h
  rcases h with (rfl | rfl) | rfl <;> decide

/-- The letter for a character that is not first in a name. -/
def innerLetter (c : Char) : Letter :=
  if hname : isNameChar c = true then .plain c hname
  else if hnul : c.toNat = 0 then .plain replacement
  else if hcontrol : c.toNat < 0x20 ∨ c.toNat = 0x7F then codeLetter c (by omega)
  else
    .escaped c
      (Bool.eq_false_iff.mpr fun h => hname (Selector.isNameChar_of_isHexDigit h))
      (Bool.eq_false_iff.mpr fun h => hcontrol (.inl (toNat_lt_of_isNewline h))) hnul

theorem toNat_lt_of_isDigit {c : Char} (h : c.isDigit = true) : c.toNat < 128 := by
  simp only [Char.isDigit, Bool.and_eq_true, decide_eq_true_eq] at h
  exact Nat.lt_of_le_of_lt (UInt32.le_iff_toNat_le.mp h.2) (by decide)

/-- The letters of a name that does not start with a hyphen. -/
def leadLetters : List Char → List Letter
  | [] => []
  | c :: rest =>
      if h : c.isDigit = true then
        codeLetter c (toNat_lt_of_isDigit h) :: rest.map innerLetter
      else (c :: rest).map innerLetter

def nameLetters : List Char → List Letter
  | '-' :: '-' :: rest => .plain '-' :: .plain '-' :: rest.map innerLetter
  | ['-'] => [.escaped '-']
  | '-' :: rest => .plain '-' :: leadLetters rest
  | s => leadLetters s

theorem print_codeLetter (c : Char) (h : c.toNat < 128) :
    (codeLetter c h).print = hexEscape c := by
  simp [codeLetter, Letter.print, hexEscape]

theorem print_innerLetter (c : Char) : (innerLetter c).print = serializeChar c := by
  unfold innerLetter serializeChar
  split
  · rfl
  · split
    · rfl
    · split
      · exact print_codeLetter c _
      · rfl

theorem printLetters_map_innerLetter (s : List Char) :
    printLetters (s.map innerLetter) = serializeChars s := by
  rw [printLetters, List.flatMap_map, serializeChars]
  exact congrArg (List.flatMap · s) (funext print_innerLetter)

theorem printLetters_leadLetters (s : List Char) :
    printLetters (leadLetters s) = serializeLead s := by
  fun_cases leadLetters s with
  | case1 => rfl
  | case2 c rest h =>
      rw [printLetters_cons, print_codeLetter, printLetters_map_innerLetter, serializeLead,
        if_pos h]
  | case3 c rest h => rw [printLetters_map_innerLetter, serializeLead, if_neg h]

theorem printLetters_nameLetters (s : List Char) :
    printLetters (nameLetters s) = serializeName s := by
  fun_cases nameLetters s with
  | case1 rest =>
      rw [printLetters_cons, printLetters_cons, printLetters_map_innerLetter]
      rfl
  | case2 => rfl
  | case3 rest h1 h2 =>
      rw [printLetters_cons, printLetters_leadLetters, Selector.serializeName.eq_3 _ h1 h2]
      rfl
  | case4 s h1 h2 h3 => rw [printLetters_leadLetters, Selector.serializeName.eq_4 _ h1 h2 h3]

/-- The letter stands for a character of a name, as it is printed. -/
structure Writes (l : Letter) (c : Char) : Prop where
  char_eq : l.char = Lexer.visible c
  mem_iff : '\x7b' ∈ l.print ↔ c = '\x7b'
  isWrittenBlank_iff : l.isWrittenBlank = true ↔ isBlank c = true ∧ 0x20 ≤ c.toNat
  endsBefore : ∀ next, l.EndsBefore next

theorem le_toNat_of_isNameChar {c : Char} (h : isNameChar c = true) : 0x20 ≤ c.toNat := by
  rw [← Nat.not_lt]
  intro hlt
  have hall : ∀ n < 0x20, isNameChar (Char.ofNat n) = false := by decide
  have hc := hall c.toNat hlt
  rw [Char.ofNat_toNat, h] at hc
  cases hc

theorem isBlank_of_isDigit {c : Char} (h : c.isDigit = true) : isBlank c = false := by
  rw [← Bool.not_eq_true]
  intro hb
  have hhex := Selector.isHexDigit_eq_false_of_isBlank hb
  rw [isHexDigit, h] at hhex
  cases hhex

/-- Control characters and digits can be written as numbers. -/
theorem writes_codeLetter {c : Char} (h : c.toNat < 128) (hnul : c.toNat ≠ 0)
    (hc : (c.toNat < 0x20 ∨ c.toNat = 0x7F) ∨ c.isDigit = true) : Writes (codeLetter c h) c where
  char_eq := by
    rw [Selector.visible_of_ne_zero hnul]
    change Lexer.charOf (hexNumber (hexDigits c.toNat)) = c
    rw [(isCode_hexDigits h).2, Selector.charOf_of_ne_zero hnul]
    exact Selector.scalarOrReplacement_toNat c
  mem_iff := by
    rw [print_codeLetter]
    refine iff_of_false (fun hmem => ?_) ?_
    · have hdigits : '\x7b' ∈ hexDigits c.toNat := by simpa [hexEscape] using hmem
      exact absurd ((isCode_hexDigits h).1.isHexDigit _ hdigits) (by decide)
    · rintro rfl
      exact absurd hc (by decide)
  isWrittenBlank_iff := by
    refine iff_of_false Bool.false_ne_true ?_
    rintro ⟨hb, hle⟩
    rcases hc with (hc | hc) | hc
    · omega
    · rw [isBlank, hc] at hb
      cases hb
    · rw [isBlank_of_isDigit hc] at hb
      cases hb
  endsBefore := by
    rintro next ⟨⟩

theorem writes_innerLetter (c : Char) : Writes (innerLetter c) c := by
  unfold innerLetter
  split
  · rename_i hname
    have hle := le_toNat_of_isNameChar hname
    exact {
      char_eq := (Selector.visible_of_ne_zero (show c.toNat ≠ 0 by omega)).symm
      mem_iff := List.mem_singleton.trans eq_comm
      isWrittenBlank_iff := (and_iff_left hle).symm
      endsBefore := fun _ => trivial }
  · split
    · rename_i hnul
      exact {
        char_eq := (if_pos hnul).symm
        mem_iff := by
          refine iff_of_false (by decide) ?_
          rintro rfl
          cases hnul
        isWrittenBlank_iff := by
          refine iff_of_false (by decide) fun h => ?_
          have := h.2
          omega
        endsBefore := fun _ => trivial }
    · rename_i hnul
      split
      · rename_i hcontrol
        exact writes_codeLetter _ hnul (.inl hcontrol)
      · rename_i hcontrol
        exact {
          char_eq := (Selector.visible_of_ne_zero hnul).symm
          mem_iff := by simp [Letter.print, eq_comm]
          isWrittenBlank_iff := (and_iff_left (show 0x20 ≤ c.toNat by omega)).symm
          endsBefore := fun _ => trivial }

theorem forall_writes_map (s : List Char) : List.Forall₂ Writes (s.map innerLetter) s :=
  List.forall₂_map_left_iff.mpr (List.forall₂_same.mpr fun c _ => writes_innerLetter c)

theorem forall_writes_leadLetters (s : List Char) : List.Forall₂ Writes (leadLetters s) s := by
  fun_cases leadLetters s with
  | case1 => exact .nil
  | case2 c rest h =>
      refine .cons (writes_codeLetter _ (fun hnul => ?_) (.inr h)) (forall_writes_map rest)
      rw [← Char.ofNat_toNat c, hnul] at h
      cases h
  | case3 c rest h => exact forall_writes_map (c :: rest)

theorem writes_hyphen : Writes (.plain '-') '-' where
  char_eq := rfl
  mem_iff := by decide
  isWrittenBlank_iff := by decide
  endsBefore _ := trivial

theorem writes_escapedHyphen : Writes (.escaped '-') '-' where
  char_eq := rfl
  mem_iff := by decide
  isWrittenBlank_iff := by decide
  endsBefore _ := trivial

/-- The letters of a printed identifier stand for the characters of the name. -/
theorem forall_writes_nameLetters (s : List Char) : List.Forall₂ Writes (nameLetters s) s := by
  fun_cases nameLetters s with
  | case1 rest => exact .cons writes_hyphen (.cons writes_hyphen (forall_writes_map rest))
  | case2 => exact .cons writes_escapedHyphen .nil
  | case3 rest => exact .cons writes_hyphen (forall_writes_leadLetters rest)
  | case4 s => exact forall_writes_leadLetters s

theorem exists_snoc_of_writes {ls : List Letter} {front : List Char} {c : Char}
    (h : List.Forall₂ Writes ls (front ++ [c])) :
    ∃ init l, ls = init ++ [l] ∧ Writes l c := by
  have hreverse := List.forall₂_reverse_iff.mpr h
  rw [List.reverse_append, List.reverse_singleton, List.singleton_append] at hreverse
  obtain ⟨l, rest, hl, -, hls⟩ := List.forall₂_cons_right_iff.mp hreverse
  exact ⟨rest.reverse, l, by rw [← List.reverse_reverse ls, hls, List.reverse_cons], hl⟩

theorem map_char_of_writes {ls : List Letter} {s : List Char} (h : List.Forall₂ Writes ls s) :
    ls.map Letter.char = s.map Lexer.visible := by
  induction h with
  | nil => rfl
  | cons hc _ ih => rw [List.map_cons, List.map_cons, hc.char_eq, ih]

theorem endsBefore_of_writes {ls : List Letter} {s : List Char} (h : List.Forall₂ Writes ls s) :
    ∀ l ∈ ls, ∀ next, l.EndsBefore next := by
  induction h with
  | nil => nofun
  | cons hc _ ih => exact List.forall_mem_cons.mpr ⟨hc.endsBefore, ih⟩

/-! ## What is printed -/

theorem mem_brace_printLetters_iff {ls : List Letter} {s : List Char}
    (h : List.Forall₂ Writes ls s) : '\x7b' ∈ printLetters ls ↔ '\x7b' ∈ s := by
  induction h with
  | nil => rfl
  | cons hc _ ih =>
      rw [printLetters_cons, List.mem_append, hc.mem_iff, ih, List.mem_cons, eq_comm]

/-- A printed identifier has a bracket where the name has one. -/
theorem mem_brace_identText_iff (name : String) :
    '\x7b' ∈ (identText name).toList ↔ '\x7b' ∈ name.toList := by
  rw [identText, String.toList_ofList, ← printLetters_nameLetters]
  exact mem_brace_printLetters_iff (forall_writes_nameLetters name.toList)

theorem units_printLetters (ls : List Letter) : Units (printLetters ls) := by
  induction ls with
  | nil => exact .nil
  | cons l rest ih =>
      rw [printLetters_cons]
      exact (units_print l).append ih

theorem units_identText (name : String) : Units (identText name).toList := by
  rw [identText, String.toList_ofList, ← printLetters_nameLetters]
  exact units_printLetters _

end Css

end StylePrune
