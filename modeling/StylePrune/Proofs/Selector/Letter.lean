import StylePrune.Css.Lexer
import StylePrune.Proofs.Selector.Reading

/-!
# Names letter by letter

A name as it is written: each character as it is, after a backslash, or as the number of the
character.  An escape by number ends with a white space or, where none is written, with the
character behind it, so whether it is read back depends on the text that follows.
-/

namespace StylePrune

namespace Selector

open Text

/-- A character that separates in stylesheets. -/
structure Space where
  char : Char
  isSpace : Css.Lexer.isSpace char = true := by decide

/-- A character of a name as it is written. -/
inductive Letter
  | plain (c : Char) (isName : isNameChar c = true := by decide)
  | escaped (c : Char) (notHex : isHexDigit c = false := by decide)
      (notNewline : Css.Lexer.isNewline c = false := by decide) (notNul : c.toNat ≠ 0 := by decide)
  /-- The digits of the number, and the white space that ends them. -/
  | coded (digits : List Char) (isCode : IsCode digits) (gap : Option Space)

namespace Letter

def print : Letter → List Char
  | plain c _ => [c]
  | escaped c _ _ _ => ['\\', c]
  | coded digits _ gap => '\\' :: (digits ++ gap.toList.map Space.char)

def char : Letter → Char
  | plain c _ => c
  | escaped c _ _ _ => c
  | coded digits _ _ => Css.Lexer.charOf (hexNumber digits)

/-- Only the next character ends the letter. -/
def isOpen : Letter → Bool
  | coded _ _ none => true
  | _ => false

/-- The letter ends in a blank that stands for itself. -/
def isWrittenBlank : Letter → Bool
  | plain c _ => isBlank c
  | escaped c _ _ _ => isBlank c
  | coded _ _ _ => false

/-- The letter is no number for NUL. -/
def IsVisible : Letter → Prop
  | coded digits _ _ => hexNumber digits ≠ 0
  | _ => True

instance : ∀ l : Letter, Decidable l.IsVisible
  | plain .. | escaped .. => isTrue trivial
  | coded digits _ _ => inferInstanceAs (Decidable (hexNumber digits ≠ 0))

/--
The letter ends where it should in front of this character.  A line feed behind a carriage
return belongs to it.
-/
def EndsBefore (next : Option Char) : Letter → Prop
  | coded _ _ none => ∀ c ∈ next, isHexDigit c = false ∧ Css.Lexer.isSpace c = false
  | coded _ _ (some gap) => gap.char = '\r' → next ≠ some '\n'
  | _ => True

instance (next : Option Char) : ∀ l : Letter, Decidable (l.EndsBefore next)
  | plain .. | escaped .. => isTrue trivial
  | coded _ _ none =>
      decidable_of_iff ((next.all fun c => !isHexDigit c && !Css.Lexer.isSpace c) = true) (by
        simp [EndsBefore, Option.all_eq_true])
  | coded _ _ (some gap) =>
      inferInstanceAs (Decidable (gap.char = '\r' → next ≠ some '\n'))

/-- A letter that is open is not followed by a hexadecimal digit or a blank. -/
def ClosesBefore (next : Option Char) (l : Letter) : Prop :=
  l.isOpen = true → ∀ c ∈ next, isHexDigit c = false ∧ isBlank c = false

def withoutGap : Letter → Letter
  | coded digits isCode _ => coded digits isCode none
  | l => l

end Letter

def printLetters (ls : List Letter) : List Char :=
  ls.flatMap Letter.print

/-- Each of some letters ends where it should in front of what follows, up to this text. -/
def EndBefore (p : Option Char → Letter → Prop) : List Letter → List Char → Prop
  | [], _ => True
  | l :: rest, s => p (printLetters rest ++ s).head? l ∧ EndBefore p rest s

instance decidableEndBefore {p : Option Char → Letter → Prop} [∀ c l, Decidable (p c l)] :
    ∀ ls s, Decidable (EndBefore p ls s)
  | [], _ => isTrue trivial
  | l :: rest, s =>
      have := decidableEndBefore (p := p) rest s
      inferInstanceAs (Decidable (p (printLetters rest ++ s).head? l ∧ EndBefore p rest s))

/-- A name as it is written: at least one letter. -/
structure Spelling where
  front : List Letter
  last : Letter

namespace Spelling

def letters (n : Spelling) : List Letter :=
  n.front ++ [n.last]

def print (n : Spelling) : List Char :=
  printLetters n.letters

def name (n : Spelling) : List Char :=
  n.letters.map Letter.char

def isOpen (n : Spelling) : Bool :=
  n.last.isOpen

def endsInBlank (n : Spelling) : Bool :=
  n.last.isWrittenBlank

/-- All escapes end where they should in front of this text. -/
def IsLegal (n : Spelling) (s : List Char) : Prop :=
  EndBefore Letter.EndsBefore n.letters s

instance (n : Spelling) (s : List Char) : Decidable (n.IsLegal s) :=
  inferInstanceAs (Decidable (EndBefore Letter.EndsBefore n.letters s))

end Spelling

theorem Space.isBlank (b : Space) : isBlank b.char = true := by
  have h := b.isSpace
  simp only [Css.Lexer.isSpace, Css.Lexer.isNewline, Bool.or_eq_true, beq_iff_eq] at h
  rcases h with (h | h) | (h | h) | h <;> rw [h] <;> rfl

theorem Space.isNameChar (b : Space) : isNameChar b.char = false := by
  have h := b.isSpace
  simp only [Css.Lexer.isSpace, Css.Lexer.isNewline, Bool.or_eq_true, beq_iff_eq] at h
  rcases h with (h | h) | (h | h) | h <;> rw [h] <;> rfl

/-! ## Where letters end -/

namespace Letter

theorem print_eq_cons (l : Letter) : ∃ c s, l.print = c :: s := by
  cases l <;> exact ⟨_, _, rfl⟩

theorem head?_print_append (l : Letter) (s : List Char) :
    (l.print ++ s).head? = l.print.head? := by
  obtain ⟨c, u, hc⟩ := l.print_eq_cons
  rw [hc]
  rfl

theorem head?_print_withoutGap (l : Letter) : l.withoutGap.print.head? = l.print.head? := by
  cases l <;> rfl

end Letter

theorem printLetters_cons (l : Letter) (ls : List Letter) :
    printLetters (l :: ls) = l.print ++ printLetters ls :=
  List.flatMap_cons

theorem printLetters_append (ls ms : List Letter) :
    printLetters (ls ++ ms) = printLetters ls ++ printLetters ms :=
  List.flatMap_append

theorem printLetters_singleton (l : Letter) : printLetters [l] = l.print := by
  simp [printLetters]

/-- Of the text that follows, only the first character counts. -/
theorem EndBefore.congr {p : Option Char → Letter → Prop} {ls : List Letter} {s t : List Char}
    (h : EndBefore p ls s) (hst : s.head? = t.head?) : EndBefore p ls t := by
  induction ls with
  | nil => trivial
  | cons l rest ih =>
      refine ⟨?_, ih h.2⟩
      have hhead : (printLetters rest ++ s).head? = (printLetters rest ++ t).head? := by
        rw [List.head?_append, List.head?_append, hst]
      exact hhead ▸ h.1

theorem endBefore_snoc_iff {p : Option Char → Letter → Prop} {ls : List Letter} {l : Letter}
    {s : List Char} :
    EndBefore p (ls ++ [l]) s ↔ EndBefore p ls l.print ∧ p s.head? l := by
  induction ls with
  | nil => simp [EndBefore, printLetters]
  | cons m rest ih =>
      have hhead : (printLetters (rest ++ [l]) ++ s).head? =
          (printLetters rest ++ l.print).head? := by
        rw [printLetters_append, printLetters_singleton, List.append_assoc, List.head?_append,
          l.head?_print_append, ← List.head?_append]
      rw [List.cons_append, EndBefore, EndBefore, ih, hhead, and_assoc]

/-! ## Reading in selectors -/

theorem charOf_of_ne_zero {n : Nat} (h : n ≠ 0) : Css.Lexer.charOf n = scalarOrReplacement n :=
  if_neg h

namespace Letter

theorem readName_append {l : Letter} {s : List Char} (h : l.ClosesBefore s.head?)
    (hv : l.IsVisible) :
    readName (l.print ++ s) = (l.char :: (readName s).1, (readName s).2) := by
  cases l with
  | plain c hc => exact readName_cons hc s
  | escaped c hc => exact readName_escape (readEscape?_cons hc s)
  | coded digits hd gap =>
      rw [char, charOf_of_ne_zero hv]
      cases gap with
      | none =>
          have hend : ∀ c ∈ s.head?, isHexDigit c = false := fun c hc => (h rfl c hc).1
          have hkept : dropOneBlank s = s := by
            cases s with
            | nil => rfl
            | cons c rest => simp [dropOneBlank, (h rfl c rfl).2]
          have hread := readEscape?_code hd hend
          rw [hkept] at hread
          simpa [print] using readName_escape hread
      | some gap =>
          have hend : ∀ c ∈ (gap.char :: s).head?, isHexDigit c = false := by
            rintro c ⟨⟩
            exact isHexDigit_eq_false_of_isBlank gap.isBlank
          have hread := readEscape?_code hd hend
          simp only [dropOneBlank, gap.isBlank, if_true] at hread
          simpa [print] using readName_escape hread

/-- No pass looks inside a letter. -/
theorem avoids (l : Letter) {x : Char} (hx : isNameChar x = false) (hb : Text.isBlank x = false) :
    Avoids x l.print := by
  cases l with
  | plain c hc =>
      exact .cons (ne_of_isNameChar hc (by decide)) (ne_of_isNameChar hc hx) .nil
  | escaped c => exact .escape c .nil
  | coded digits hd gap =>
      refine (hd.avoids_escape hx).append (.of_forall fun c hc => ?_)
      obtain ⟨b, -, rfl⟩ := List.mem_map.mp hc
      exact ⟨ne_of_isBlank b.isBlank (by decide), ne_of_isBlank b.isBlank hb⟩

theorem trimEnd_print {l : Letter} (h : l.isWrittenBlank = false) :
    trimEnd l.print = l.withoutGap.print := by
  cases l with
  | plain c hc => exact trimEnd_snoc h []
  | escaped c => exact trimEnd_snoc h ['\\']
  | coded digits hd gap =>
      have hdigits : ∀ c ∈ '\\' :: digits, Text.isBlank c = false := by
        intro c hc
        rcases List.mem_cons.mp hc with rfl | hc
        · decide
        · exact hd.isBlank hc
      have hgap : trimEnd (gap.toList.map Space.char) = [] := by
        cases gap with
        | none => rfl
        | some b => simp [trimEnd, dropBlanks, b.isBlank]
      rw [print, ← List.cons_append, trimEnd_append_of_not_isBlank hdigits, hgap]
      rfl

theorem withoutGap_char (l : Letter) : l.withoutGap.char = l.char := by
  cases l <;> rfl

theorem IsVisible.withoutGap {l : Letter} (h : l.IsVisible) : l.withoutGap.IsVisible := by
  cases l <;> exact h

end Letter

/-- Letters that end where they should are read back, whatever follows. -/
theorem readName_printLetters {ls : List Letter} {s : List Char}
    (h : EndBefore Letter.ClosesBefore ls s) (hv : ∀ l ∈ ls, l.IsVisible) :
    readName (printLetters ls ++ s) = (ls.map Letter.char ++ (readName s).1, (readName s).2) := by
  induction ls with
  | nil => rfl
  | cons l rest ih =>
      rw [printLetters_cons, List.append_assoc, Letter.readName_append h.1 (hv l (by simp)),
        ih h.2 fun m hm => hv m (List.mem_cons_of_mem l hm)]
      rfl

theorem avoids_printLetters (ls : List Letter) {x : Char} (hx : isNameChar x = false)
    (hb : isBlank x = false) : Avoids x (printLetters ls) := by
  induction ls with
  | nil => exact .nil
  | cons l rest ih =>
      rw [printLetters_cons]
      exact (l.avoids hx hb).append ih

theorem trimEnd_printLetters_snoc {ls : List Letter} {l : Letter} (h : l.isWrittenBlank = false) :
    trimEnd (printLetters (ls ++ [l])) = printLetters (ls ++ [l.withoutGap]) := by
  obtain ⟨c, s, hc⟩ := l.withoutGap.print_eq_cons
  rw [printLetters_append, printLetters_singleton, trimEnd_append, Letter.trimEnd_print h,
    if_neg (by simp [hc]), printLetters_append, printLetters_singleton]

namespace Spelling

theorem name_ne_nil (n : Spelling) : n.name ≠ [] := by
  simp [name, letters]

/-- The escapes are read in a selector as they are written, in front of this text. -/
structure IsRead (n : Spelling) (s : List Char) : Prop where
  closes : EndBefore Letter.ClosesBefore n.letters s
  visible : ∀ l ∈ n.letters, l.IsVisible

/-- Whatever follows in the end, the name is read up to it, unless an open escape meets a blank. -/
theorem IsRead.readName_append {n : Spelling} {s : List Char} (h : n.IsRead s) {t : List Char}
    (ht : IsApart t) (hopen : n.isOpen = true → ∀ c ∈ t.head?, isBlank c = false) :
    readName (n.print ++ t) = (n.name, t) := by
  have hcloses : EndBefore Letter.ClosesBefore n.letters t := by
    have hc := h.closes
    rw [letters, endBefore_snoc_iff] at hc ⊢
    refine ⟨hc.1, fun hlast c hmem => ⟨?_, hopen hlast c hmem⟩⟩
    rw [← Bool.not_eq_true]
    intro hd
    have hname := (ht.of_mem_head? hmem).1
    rw [isNameChar_of_isHexDigit hd] at hname
    cases hname
  rw [print, readName_printLetters hcloses h.visible, readName_of_isApart ht, List.append_nil]
  rfl

/-- A blank behind an open escape is read with it. -/
theorem IsRead.readName_append_blank {n : Spelling} {s : List Char} (h : n.IsRead s)
    (hopen : n.isOpen = true) {b : Char} (hb : isBlank b = true) {t : List Char}
    (ht : IsApart t) : readName (n.print ++ b :: t) = (n.name, t) := by
  have hlast : n.last.IsVisible := h.visible n.last (by simp [letters])
  have hread : readName (n.last.print ++ b :: t) = ([n.last.char], t) := by
    have hlastOpen : n.last.isOpen = true := hopen
    cases hl : n.last with
    | plain | escaped => rw [hl] at hlastOpen; cases hlastOpen
    | coded digits hd gap =>
        rw [hl] at hlastOpen hlast
        cases gap with
        | some => cases hlastOpen
        | none =>
            have hend : ∀ c ∈ (b :: t).head?, isHexDigit c = false := by
              rintro c ⟨⟩
              exact isHexDigit_eq_false_of_isBlank hb
            have hcode := readEscape?_code hd hend
            simp only [dropOneBlank, hb, if_true] at hcode
            rw [Letter.char, charOf_of_ne_zero hlast]
            simpa [Letter.print, readName_of_isApart ht] using readName_escape hcode
  have hfront := (endBefore_snoc_iff.mp h.closes).1
  have hhead : n.last.print.head? = (n.last.print ++ b :: t).head? :=
    (n.last.head?_print_append _).symm
  rw [print, letters, printLetters_append, printLetters_singleton, List.append_assoc,
    readName_printLetters (hfront.congr hhead) fun l hl => h.visible l (by simp [letters, hl]),
    hread, name, letters, List.map_append, List.map_singleton]

theorem trimEnd_print {n : Spelling} (h : n.endsInBlank = false) :
    trimEnd n.print = printLetters (n.front ++ [n.last.withoutGap]) :=
  trimEnd_printLetters_snoc h

/-- At the end of the text the name is read without the white space that ends its last escape. -/
theorem IsRead.readName_trimEnd {n : Spelling} {s : List Char} (h : n.IsRead s)
    (hend : n.endsInBlank = false) : readName (trimEnd n.print) = (n.name, []) := by
  have hcloses : EndBefore Letter.ClosesBefore (n.front ++ [n.last.withoutGap]) [] := by
    have hfront := (endBefore_snoc_iff.mp h.closes).1
    rw [endBefore_snoc_iff]
    exact ⟨hfront.congr n.last.head?_print_withoutGap.symm, fun _ c hmem => by cases hmem⟩
  have hvisible : ∀ l ∈ n.front ++ [n.last.withoutGap], l.IsVisible := by
    intro l hl
    rcases List.mem_append.mp hl with hl | hl
    · exact h.visible l (List.mem_append_left _ hl)
    · rw [List.mem_singleton.mp hl]
      exact (h.visible n.last (by simp [letters])).withoutGap
  have hread := readName_printLetters hcloses hvisible
  rw [List.append_nil, ← trimEnd_print hend, readName, List.append_nil] at hread
  rw [hread, name, letters, List.map_append, List.map_append, List.map_singleton,
    List.map_singleton, Letter.withoutGap_char]

theorem avoids (n : Spelling) {x : Char} (hx : isNameChar x = false) (hb : isBlank x = false) :
    Avoids x n.print :=
  avoids_printLetters n.letters hx hb

theorem avoids_trimEnd {n : Spelling} (h : n.endsInBlank = false) {x : Char}
    (hx : isNameChar x = false) (hb : isBlank x = false) : Avoids x (trimEnd n.print) := by
  rw [trimEnd_print h]
  exact avoids_printLetters _ hx hb

end Spelling

/-! ## Reading in stylesheets -/

open Css.Lexer in
theorem nameAfter_length_append (u s : List Char) :
    nameAfter u.length (u ++ s) = ((nameAfter 0 s).1, (nameAfter 0 s).2 + u.length) := by
  induction u with
  | nil => rfl
  | cons c rest ih => rw [List.cons_append, List.length_cons, nameAfter, ih, Nat.add_assoc]

open Css.Lexer in
theorem nameAfter_escape {s : List Char} {c : Char} {n : Nat} (hs : escapes s = true)
    (he : escape s = (c, n)) :
    nameAfter 0 ('\\' :: s) = (c :: (nameAfter n s).1, (nameAfter n s).2 + 1) := by
  rw [nameAfter, if_neg (by decide), if_pos ⟨rfl, hs⟩, he]

theorem visible_of_ne_zero {c : Char} (h : c.toNat ≠ 0) : Css.Lexer.visible c = c :=
  if_neg h

theorem isNamePart_of_isNameChar {c : Char} (h : isNameChar c = true) :
    Css.Lexer.isNamePart c = true ∧ c.toNat ≠ 0 := by
  constructor
  · simp only [isNameChar, isAsciiAlphanumeric, Bool.or_eq_true] at h
    simp only [Css.Lexer.isNamePart, Css.Lexer.isNameStart, Bool.or_eq_true]
    grind
  · intro hc
    have hnul : c = Char.ofNat 0 := by rw [← hc, Char.ofNat_toNat]
    rw [hnul] at h
    exact absurd h (by decide)

namespace Letter

open Css.Lexer in
theorem escape_digits {digits s : List Char} (hd : IsCode digits)
    (hs : ∀ c ∈ s.head?, isHexDigit c = false) :
    escapes (digits ++ s) = true ∧
      escape (digits ++ s) = (charOf (hexNumber digits), digits.length + blankLength s) := by
  have he := escapeDigits_append hd hs
  obtain ⟨d, rest, rfl⟩ := List.exists_cons_of_ne_nil hd.ne_nil
  rw [List.cons_append, escapeDigits] at he
  constructor
  · have hhex := hd.isHexDigit d List.mem_cons_self
    have hne : ∀ x, isHexDigit x = false → d ≠ x := by
      rintro x hx rfl
      rw [hhex] at hx
      cases hx
    simp [escapes, isNewline, hne '\n' (by decide), hne '\r' (by decide), hne '\x0c' (by decide)]
  · rw [List.cons_append, escape, he]
    simp

open Css.Lexer in
theorem blankLength_eq_zero {s : List Char} (h : ∀ c ∈ s.head?, isSpace c = false) :
    blankLength s = 0 := by
  fun_cases blankLength s with
  | case1 => exact absurd (h '\r' rfl) (by decide)
  | case2 c rest _ hc => rw [h c rfl] at hc; cases hc
  | case3 => rfl
  | case4 => rfl

open Css.Lexer in
theorem blankLength_eq_one {b : Space} {s : List Char}
    (h : b.char = '\r' → s.head? ≠ some '\n') : blankLength (b.char :: s) = 1 := by
  rw [blankLength.eq_2]
  · exact if_pos b.isSpace
  · rintro rest hb rfl
    exact h hb rfl

open Css.Lexer in
/-- A letter is read in stylesheets as the character it stands for. -/
theorem nameAfter_append {l : Letter} {s : List Char} (h : l.EndsBefore s.head?) :
    nameAfter 0 (l.print ++ s) =
      (l.char :: (nameAfter 0 s).1, (nameAfter 0 s).2 + l.print.length) := by
  cases l with
  | plain c hc =>
      obtain ⟨hpart, hzero⟩ := isNamePart_of_isNameChar hc
      change nameAfter 0 (c :: s) = _
      rw [nameAfter, if_pos hpart, visible_of_ne_zero hzero]
      rfl
  | escaped c hhex hline hnul =>
      have hread : escape (c :: s) = (c, 1) := by
        simp [escape, hhex, visible_of_ne_zero hnul]
      have hskip := nameAfter_length_append [c] s
      change nameAfter 0 ('\\' :: c :: s) = _
      rw [nameAfter_escape (by simp [escapes, hline]) hread]
      change nameAfter 1 (c :: s) = _ at hskip
      rw [hskip]
      rfl
  | coded digits hd gap =>
      cases gap with
      | none =>
          obtain ⟨hesc, hread⟩ := escape_digits hd fun c hc => (h c hc).1
          rw [blankLength_eq_zero fun c hc => (h c hc).2, Nat.add_zero] at hread
          have htext : (coded digits hd none).print ++ s = '\\' :: (digits ++ s) := by simp [print]
          rw [htext, nameAfter_escape hesc hread, nameAfter_length_append]
          simp [print, char, Nat.add_assoc]
      | some b =>
          have hgap : ∀ c ∈ (b.char :: s).head?, isHexDigit c = false := by
            rintro c ⟨⟩
            exact isHexDigit_eq_false_of_isBlank b.isBlank
          obtain ⟨hesc, hread⟩ := escape_digits hd hgap
          rw [blankLength_eq_one h] at hread
          have hskip := nameAfter_length_append (digits ++ [b.char]) s
          rw [List.append_assoc, List.singleton_append, List.length_append,
            List.length_singleton] at hskip
          have htext : (coded digits hd (some b)).print ++ s =
              '\\' :: (digits ++ b.char :: s) := by
            simp [print]
          rw [htext, nameAfter_escape hesc hread, hskip]
          simp [print, char, Nat.add_assoc]

end Letter

open Css.Lexer in
theorem nameAfter_printLetters {ls : List Letter} {s : List Char}
    (h : EndBefore Letter.EndsBefore ls s) :
    nameAfter 0 (printLetters ls ++ s) =
      (ls.map Letter.char ++ (nameAfter 0 s).1, (nameAfter 0 s).2 + (printLetters ls).length) := by
  induction ls with
  | nil => rfl
  | cons l rest ih =>
      rw [printLetters_cons, List.append_assoc, Letter.nameAfter_append h.1, ih h.2]
      simp only [List.map_cons, List.cons_append, List.length_append, Prod.mk.injEq, true_and]
      omega

/-- A name that is written as it may be is read in stylesheets up to its end. -/
theorem Spelling.IsLegal.name_append {n : Spelling} {s : List Char} (h : n.IsLegal s)
    (hs : ∀ c ∈ s.head?, Css.Lexer.isNamePart c = false ∧ c ≠ '\\') :
    Css.Lexer.name (n.print ++ s) = (String.ofList n.name, n.print.length) := by
  have hend : Css.Lexer.nameAfter 0 s = ([], 0) := by
    cases s with
    | nil => rfl
    | cons c rest =>
        obtain ⟨hpart, hslash⟩ := hs c rfl
        rw [Css.Lexer.nameAfter, if_neg (by simp [hpart]), if_neg fun hc => hslash hc.1]
  rw [Css.Lexer.name, print, nameAfter_printLetters h, hend]
  simp [name]

end Selector

end StylePrune
