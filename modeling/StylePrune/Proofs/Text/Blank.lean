import StylePrune.Text.Blank

/-!
# Trimming

How the blanks at the end of a text go when texts are put together.
-/

namespace StylePrune

namespace Text

theorem ne_of_isBlank {c x : Char} (h : isBlank c = true) (hx : isBlank x = false) : c ≠ x := by
  rintro rfl
  simp [h] at hx

@[simp] theorem trimEnd_nil : trimEnd [] = [] := rfl

theorem trim_eq_trimEnd (s : List Char) : trim s = trimEnd (dropBlanks s) := rfl

/-- Blanks of the first text go only where nothing is left of the second. -/
theorem trimEnd_append (s t : List Char) :
    trimEnd (s ++ t) = if trimEnd t = [] then trimEnd s else s ++ trimEnd t := by
  simp only [trimEnd, dropBlanks, List.reverse_append, List.dropWhile_append,
    List.isEmpty_iff, List.reverse_eq_nil_iff]
  split
  · rfl
  · simp

theorem trimEnd_cons (c : Char) (s : List Char) :
    trimEnd (c :: s) = if isBlank c && (trimEnd s).isEmpty then [] else c :: trimEnd s := by
  rw [← List.singleton_append, trimEnd_append]
  by_cases hs : trimEnd s = []
  · have hsingle : trimEnd [c] = if isBlank c then [] else [c] := by
      by_cases hc : isBlank c <;> simp [trimEnd, dropBlanks, hc]
    simp [hs, hsingle]
  · simp [hs]

theorem trimEnd_cons_of_not_isBlank {c : Char} (h : isBlank c = false) (s : List Char) :
    trimEnd (c :: s) = c :: trimEnd s := by
  simp [trimEnd_cons, h]

theorem dropBlanks_cons_of_not_isBlank {c : Char} (h : isBlank c = false) (s : List Char) :
    dropBlanks (c :: s) = c :: s := by
  simp [dropBlanks, h]

/-- A text without blanks keeps its end. -/
theorem trimEnd_append_of_not_isBlank {s : List Char} (h : ∀ c ∈ s, isBlank c = false)
    (t : List Char) : trimEnd (s ++ t) = s ++ trimEnd t := by
  induction s with
  | nil => rfl
  | cons c rest ih =>
      rw [List.cons_append, trimEnd_cons_of_not_isBlank (h c List.mem_cons_self),
        ih fun x hx => h x (List.mem_cons_of_mem c hx)]
      rfl

theorem trim_of_not_isBlank {s : List Char} (h : ∀ c ∈ s, isBlank c = false) : trim s = s := by
  have hdrop : dropBlanks s = s := by
    cases s with
    | nil => rfl
    | cons c rest => exact dropBlanks_cons_of_not_isBlank (h c List.mem_cons_self) rest
  have hend := trimEnd_append_of_not_isBlank h []
  rw [trim_eq_trimEnd, hdrop]
  simpa using hend

theorem trimEnd_snoc {c : Char} (h : isBlank c = false) (s : List Char) :
    trimEnd (s ++ [c]) = s ++ [c] := by
  simp [trimEnd_append, trimEnd_cons_of_not_isBlank h]

theorem isPrefix_trimEnd (s : List Char) : trimEnd s <+: s := by
  rw [trimEnd, ← List.reverse_suffix, List.reverse_reverse]
  exact List.dropWhile_suffix _

theorem mem_of_mem_trimEnd {s : List Char} {c : Char} (h : c ∈ trimEnd s) : c ∈ s := by
  rw [trimEnd, List.mem_reverse] at h
  exact List.mem_reverse.mp ((List.dropWhile_sublist _).mem h)

theorem mem_of_mem_trim {s : List Char} {c : Char} (h : c ∈ trim s) : c ∈ s := by
  rw [trim_eq_trimEnd] at h
  exact (List.dropWhile_sublist _).mem (mem_of_mem_trimEnd h)

end Text

end StylePrune
