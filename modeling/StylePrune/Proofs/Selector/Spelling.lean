import StylePrune.Proofs.Selector.Passes
import StylePrune.Proofs.Text.Blank

/-!
# Spellings of names

A name can be written in many ways: each character as it is, after a backslash, or as a
hexadecimal escape with a blank at its end.  The serialization of a name is one of its
spellings, and reading any spelling gives the name back, also where the blank of its last
escape is missing because nothing follows.
-/

namespace StylePrune

namespace Selector

open Text

/-! ## Characters -/

theorem isNameChar_of_isHexDigit {c : Char} (h : isHexDigit c = true) : isNameChar c = true := by
  simp only [isHexDigit, isNameChar, isAsciiAlphanumeric, isAsciiLetter, Bool.or_eq_true,
    Bool.and_eq_true, decide_eq_true_eq] at h ⊢
  rcases h with (h | ⟨h1, h2⟩) | ⟨h1, h2⟩
  · simp [h]
  · exact .inl (.inl (.inl (.inl (.inl ⟨h1, Char.le_trans h2 (by decide)⟩))))
  · exact .inl (.inl (.inl (.inl (.inr ⟨h1, Char.le_trans h2 (by decide)⟩))))

theorem isDigit_iff {c : Char} : c.isDigit = true ↔ 48 ≤ c.toNat ∧ c.toNat ≤ 57 := by
  simp only [Char.isDigit, UInt32.le_iff_toNat_le, ge_iff_le, Bool.and_eq_true, decide_eq_true_eq]
  rfl

theorem le_iff_toNat_le {c d : Char} : c ≤ d ↔ c.toNat ≤ d.toNat := by
  rw [Char.le_def, UInt32.le_iff_toNat_le]
  rfl

theorem isHexDigit_iff {c : Char} :
    isHexDigit c = true ↔
      (48 ≤ c.toNat ∧ c.toNat ≤ 57 ∨ 97 ≤ c.toNat ∧ c.toNat ≤ 102) ∨
        65 ≤ c.toNat ∧ c.toNat ≤ 70 := by
  simp only [isHexDigit, isDigit_iff, le_iff_toNat_le, Bool.or_eq_true, Bool.and_eq_true,
    decide_eq_true_eq]
  rfl

theorem isHexDigit_eq_false_of_isBlank {c : Char} (h : isBlank c = true) :
    isHexDigit c = false := by
  rw [← Bool.not_eq_true, isHexDigit_iff]
  simp only [isBlank, Bool.or_eq_true, Bool.and_eq_true, decide_eq_true_eq, beq_iff_eq] at h
  omega

theorem ne_of_isNameChar {c x : Char} (h : isNameChar c = true) (hx : isNameChar x = false) :
    c ≠ x := by
  rintro rfl
  simp [h] at hx

theorem scalarOrReplacement_toNat (c : Char) : scalarOrReplacement c.toNat = c := by
  have h : c.toNat.isValidChar := c.valid
  rw [scalarOrReplacement, scalar?, dif_pos h]
  rfl

/-- The digits of an escape: at least one and at most six. -/
structure IsCode (digits : List Char) : Prop where
  ne_nil : digits ≠ []
  length_le : digits.length ≤ 6
  isHexDigit : ∀ d ∈ digits, isHexDigit d = true

namespace IsCode

theorem isBlank {digits : List Char} (h : IsCode digits) {d : Char} (hd : d ∈ digits) :
    isBlank d = false := by
  rw [← Bool.not_eq_true]
  intro hb
  have hf := isHexDigit_eq_false_of_isBlank hb
  rw [h.isHexDigit d hd] at hf
  cases hf

theorem avoids_escape {digits : List Char} (h : IsCode digits) {x : Char}
    (hx : isNameChar x = false) : Avoids x ('\\' :: digits) := by
  obtain ⟨d, ds, rfl⟩ := List.exists_cons_of_ne_nil h.ne_nil
  refine .escape d (.of_forall fun c hc => ?_)
  have hn := isNameChar_of_isHexDigit (h.isHexDigit c (List.mem_cons_of_mem d hc))
  exact ⟨ne_of_isNameChar hn (by decide), ne_of_isNameChar hn hx⟩

end IsCode

/-- An ASCII character can be written by its number. -/
theorem isCode_hexDigits {n : Nat} (h : n < 128) :
    IsCode (hexDigits n) ∧ hexNumber (hexDigits n) = n := by
  have key : ∀ n < 128, hexDigits n ≠ [] ∧ (hexDigits n).length ≤ 6 ∧
      (hexDigits n).all isHexDigit = true ∧ hexNumber (hexDigits n) = n := by
    decide
  obtain ⟨h1, h2, h3, h4⟩ := key n h
  exact ⟨⟨h1, h2, List.all_eq_true.mp h3⟩, h4⟩

/-! ## Reading one character -/

theorem readName_cons {c : Char} (h : isNameChar c = true) (s : List Char) :
    readName (c :: s) = (c :: (readName s).1, (readName s).2) := by
  rw [readName, if_pos h]

theorem readName_escape {s t : List Char} {c : Char} (h : readEscape? s = some (c, t)) :
    readName ('\\' :: s) = (c :: (readName t).1, (readName t).2) := by
  rw [readName, if_neg (by decide), if_pos rfl]
  split
  · rename_i hn
    simp [h] at hn
  · rename_i c' t' hs
    obtain ⟨rfl, rfl⟩ : c = c' ∧ t = t' := by simpa [h] using hs
    rfl

theorem readEscape?_cons {c : Char} (h : isHexDigit c = false) (s : List Char) :
    readEscape? (c :: s) = some (c, s) := by
  simp [readEscape?, escapeDigits, h]

/-- The digits of an escape end where no digit follows. -/
theorem escapeDigits_append {digits s : List Char} (hd : IsCode digits)
    (hs : ∀ c ∈ s.head?, isHexDigit c = false) : escapeDigits (digits ++ s) = digits := by
  have hrest : (s.take (6 - digits.length)).takeWhile isHexDigit = [] := by
    cases s with
    | nil => simp
    | cons c rest =>
        have hc := hs c rfl
        cases 6 - digits.length <;> simp [hc]
  rw [escapeDigits, List.take_append, List.take_of_length_le hd.length_le,
    List.takeWhile_append_of_pos hd.isHexDigit, hrest, List.append_nil]

theorem readEscape?_code {digits s : List Char} (hd : IsCode digits)
    (hs : ∀ c ∈ s.head?, isHexDigit c = false) :
    readEscape? (digits ++ s) = some (scalarOrReplacement (hexNumber digits), dropOneBlank s) := by
  have he := escapeDigits_append hd hs
  cases digits with
  | nil => exact absurd rfl hd.ne_nil
  | cons d ds =>
      rw [List.cons_append] at he ⊢
      simp [readEscape?, he]

/-! ## Spellings -/

/-- The first text is a way to write the second as a part of a name. -/
inductive Spells : List Char → List Char → Prop
  | nil : Spells [] []
  | plain {c : Char} {s name : List Char} :
      isNameChar c = true → Spells s name → Spells (c :: s) (c :: name)
  | escaped {c : Char} {s name : List Char} :
      isHexDigit c = false → Spells s name → Spells ('\\' :: c :: s) (c :: name)
  | coded {digits s name : List Char} {gap : Char} :
      IsCode digits → isBlank gap = true → Spells s name →
        Spells ('\\' :: (digits ++ gap :: s)) (scalarOrReplacement (hexNumber digits) :: name)

namespace Spells

/-- Reading goes on behind a spelling as if it started there. -/
theorem readName_append {s name : List Char} (h : Spells s name) (rest : List Char) :
    readName (s ++ rest) = (name ++ (readName rest).1, (readName rest).2) := by
  induction h with
  | nil => rfl
  | plain hc _ ih => rw [List.cons_append, readName_cons hc, ih]; rfl
  | escaped hc _ ih =>
      rw [List.cons_append, List.cons_append, readName_escape (readEscape?_cons hc _), ih]
      rfl
  | @coded digits s name gap hd hg _ ih =>
      have hs : ∀ c ∈ (gap :: (s ++ rest)).head?, isHexDigit c = false := by
        rintro c ⟨⟩
        exact isHexDigit_eq_false_of_isBlank hg
      have he := readEscape?_code hd hs
      simp only [dropOneBlank, hg, if_true] at he
      rw [List.cons_append, List.append_assoc, List.cons_append, readName_escape he, ih]
      rfl

theorem append {s t m n : List Char} (hs : Spells s m) (ht : Spells t n) :
    Spells (s ++ t) (m ++ n) := by
  induction hs with
  | nil => exact ht
  | plain hc _ ih => exact .plain hc ih
  | escaped hc _ ih => exact .escaped hc ih
  | coded hd hg _ ih =>
      rw [List.cons_append, List.append_assoc]
      exact .coded hd hg ih

/-- No pass looks inside a spelling. -/
theorem avoids {s name : List Char} (h : Spells s name) {x : Char} (hx : isNameChar x = false)
    (hb : isBlank x = false) : Avoids x s := by
  induction h with
  | nil => exact .nil
  | plain hc _ ih => exact .cons (ne_of_isNameChar hc (by decide)) (ne_of_isNameChar hc hx) ih
  | escaped _ _ ih => exact .escape _ ih
  | @coded digits s name gap hcode hg _ ih =>
      have hgap : Avoids x (gap :: s) := by
        refine .cons ?_ ?_ ih
        · rintro rfl
          simp [isBlank] at hg
        · rintro rfl
          simp [hb] at hg
      exact (hcode.avoids_escape hx).append hgap

theorem eq_nil_of_trimEnd_eq_nil {s name : List Char} (h : Spells s name)
    (hn : ∀ c ∈ name, isBlank c = false) (hs : trimEnd s = []) : s = [] ∧ name = [] := by
  cases h with
  | nil => exact ⟨rfl, rfl⟩
  | plain =>
      rw [trimEnd_cons_of_not_isBlank (hn _ List.mem_cons_self)] at hs
      cases hs
  | escaped | coded =>
      rw [trimEnd_cons_of_not_isBlank (by decide)] at hs
      cases hs

/-- Trimming takes at most the blank of the last escape. -/
theorem trimEnd_cases {s name : List Char} (h : Spells s name)
    (hn : ∀ c ∈ name, isBlank c = false) :
    trimEnd s = s ∨ ∃ u m digits, Spells u m ∧ IsCode digits ∧ trimEnd s = u ++ '\\' :: digits ∧
      name = m ++ [scalarOrReplacement (hexNumber digits)] := by
  induction h with
  | nil => exact .inl rfl
  | @plain c s name hc hs ih =>
      rw [trimEnd_cons_of_not_isBlank (hn c List.mem_cons_self)]
      rcases ih fun d hd => hn d (List.mem_cons_of_mem c hd) with
        he | ⟨u, m, digits, hu, hd, he, rfl⟩
      · exact .inl (by rw [he])
      · exact .inr ⟨c :: u, c :: m, digits, .plain hc hu, hd, by rw [he]; rfl, rfl⟩
  | @escaped c s name hc hs ih =>
      rw [trimEnd_cons_of_not_isBlank (by decide),
        trimEnd_cons_of_not_isBlank (hn c List.mem_cons_self)]
      rcases ih fun d hd => hn d (List.mem_cons_of_mem c hd) with
        he | ⟨u, m, digits, hu, hd, he, rfl⟩
      · exact .inl (by rw [he])
      · exact .inr ⟨'\\' :: c :: u, c :: m, digits, .escaped hc hu, hd, by rw [he]; rfl, rfl⟩
  | @coded code s name gap hcode hg hs ih =>
      have hn' := fun d hd => hn d (List.mem_cons_of_mem _ hd)
      rw [trimEnd_cons_of_not_isBlank (by decide),
        trimEnd_append_of_not_isBlank fun d hd => hcode.isBlank hd, trimEnd_cons]
      by_cases hnil : trimEnd s = []
      · -- Nothing follows, so the blank of this escape goes.
        obtain ⟨rfl, rfl⟩ := hs.eq_nil_of_trimEnd_eq_nil hn' hnil
        exact .inr ⟨[], [], code, .nil, hcode, by simp [hg], rfl⟩
      · rw [if_neg (by simp [hnil])]
        rcases ih hn' with he | ⟨u, m, digits, hu, hd, he, rfl⟩
        · exact .inl (by rw [he])
        · exact .inr ⟨_, _, digits, .coded hcode hg hu, hd, by simp [he], rfl⟩

theorem readName_trimEnd {s name : List Char} (h : Spells s name)
    (hn : ∀ c ∈ name, isBlank c = false) : readName (trimEnd s) = (name, []) := by
  rcases h.trimEnd_cases hn with he | ⟨u, m, digits, hu, hd, he, rfl⟩
  · rw [he]
    simpa [readName] using h.readName_append []
  · have hcode := readEscape?_code (s := []) hd (by simp)
    rw [List.append_nil] at hcode
    rw [he, hu.readName_append, readName_escape hcode]
    simp [dropOneBlank, readName]

theorem avoids_trimEnd {s name : List Char} (h : Spells s name)
    (hn : ∀ c ∈ name, isBlank c = false) {x : Char} (hx : isNameChar x = false)
    (hb : isBlank x = false) : Avoids x (trimEnd s) := by
  rcases h.trimEnd_cases hn with he | ⟨u, m, digits, hu, hd, he, -⟩
  · rw [he]
    exact h.avoids hx hb
  · rw [he]
    exact (hu.avoids hx hb).append (hd.avoids_escape hx)

end Spells

/-! ## Serializations -/

theorem spells_hexEscape {c : Char} (h : c.toNat < 128) : Spells (hexEscape c) [c] := by
  obtain ⟨hd, hv⟩ := isCode_hexDigits h
  have hblank : isBlank ' ' = true := rfl
  have hs := Spells.coded hd hblank .nil
  rwa [hv, scalarOrReplacement_toNat] at hs

theorem spells_serializeChar {c : Char} (h : c.toNat ≠ 0) : Spells (serializeChar c) [c] := by
  rw [serializeChar]
  split
  · exact .plain ‹_› .nil
  · rename_i hc
    split
    · exact spells_hexEscape (by omega)
    · refine .escaped ?_ .nil
      rw [← Bool.not_eq_true]
      exact fun hd => hc (isNameChar_of_isHexDigit hd)

theorem spells_serializeChars {name : List Char} (h : ∀ c ∈ name, c.toNat ≠ 0) :
    Spells (serializeChars name) name := by
  induction name with
  | nil => exact .nil
  | cons c rest ih =>
      exact (spells_serializeChar (h c List.mem_cons_self)).append
        (ih fun d hd => h d (List.mem_cons_of_mem c hd))

theorem spells_serializeLead {name : List Char} (h : ∀ c ∈ name, c.toNat ≠ 0) :
    Spells (serializeLead name) name := by
  cases name with
  | nil => exact .nil
  | cons c rest =>
      rw [serializeLead]
      split
      · rename_i hc
        have hlt : c.toNat < 128 := by
          simp only [Char.isDigit, Bool.and_eq_true, decide_eq_true_eq] at hc
          exact Nat.lt_of_le_of_lt (UInt32.le_iff_toNat_le.mp hc.2) (by decide)
        exact (spells_hexEscape hlt).append
          (spells_serializeChars fun d hd => h d (List.mem_cons_of_mem c hd))
      · exact spells_serializeChars h

/-- The serialization of a name without NUL is a way to write it. -/
theorem spells_serializeName {name : List Char} (h : ∀ c ∈ name, c.toNat ≠ 0) :
    Spells (serializeName name) name := by
  fun_cases serializeName name with
  | case1 rest =>
      exact .plain (by decide) (.plain (by decide) (spells_serializeChars fun d hd =>
        h d (List.mem_cons_of_mem _ (List.mem_cons_of_mem _ hd))))
  | case2 => exact .escaped (by decide) .nil
  | case3 rest =>
      exact .plain (by decide) (spells_serializeLead fun d hd => h d (List.mem_cons_of_mem _ hd))
  | case4 => exact spells_serializeLead h

end Selector

end StylePrune
