import StylePrune.Text.Blank

/-!
# Words

The words of a text are its maximal runs of characters that are no blanks.
-/

namespace StylePrune

namespace Text

theorem wordsFrom_append {w : List Char} (h : ∀ c ∈ w, isBlank c = false)
    (current s : List Char) : wordsFrom current (w ++ s) = wordsFrom (w.reverse ++ current) s := by
  induction w generalizing current with
  | nil => rfl
  | cons c rest ih =>
      have hc := h c List.mem_cons_self
      have hrest := ih (fun d hd => h d (List.mem_cons_of_mem c hd)) (c :: current)
      rw [List.cons_append, wordsFrom, hc, if_neg Bool.false_ne_true, hrest, List.reverse_cons,
        List.append_assoc]
      rfl

/-- A blank ends a word. -/
theorem wordsFrom_append_blank {b : Char} (hb : isBlank b = true) (current s t : List Char) :
    wordsFrom current (s ++ b :: t) = wordsFrom current s ++ words t := by
  induction s generalizing current with
  | nil =>
      rw [List.nil_append, wordsFrom, wordsFrom, if_pos hb]
      split
      · rfl
      · rfl
  | cons c rest ih =>
      rw [List.cons_append, wordsFrom, wordsFrom]
      split
      · split
        · exact ih []
        · rw [ih [], List.cons_append]
      · exact ih (c :: current)

/-- A run without blanks that nothing continues is a word. -/
theorem mem_words {w before after : List Char} (hne : w ≠ [])
    (hw : ∀ c ∈ w, isBlank c = false) (hbefore : ∀ c ∈ before.getLast?, isBlank c = true)
    (hafter : ∀ c ∈ after.head?, isBlank c = true) : w ∈ words (before ++ (w ++ after)) := by
  have hfront : w ∈ words (w ++ after) := by
    have hsome : w.reverse.isEmpty = false := by simp [hne]
    rw [words, wordsFrom_append hw, List.append_nil]
    cases after with
    | nil =>
        rw [wordsFrom, hsome, List.reverse_reverse]
        exact List.mem_cons_self
    | cons b t =>
        have hb := hafter b rfl
        rw [wordsFrom, if_pos hb, hsome, List.reverse_reverse]
        exact List.mem_cons_self
  rcases List.eq_nil_or_concat before with rfl | ⟨s, b, rfl⟩
  · exact hfront
  · rw [List.concat_eq_append] at hbefore ⊢
    have hb : isBlank b = true := hbefore b (by simp)
    rw [List.append_assoc, List.singleton_append, words, wordsFrom_append_blank hb]
    exact List.mem_append_right _ hfront

theorem not_isBlank_of_mem_wordsFrom {current s w : List Char}
    (hcurrent : ∀ c ∈ current, isBlank c = false) (h : w ∈ wordsFrom current s) :
    ∀ c ∈ w, isBlank c = false := by
  have hreverse : ∀ c ∈ current.reverse, isBlank c = false := fun c hc =>
    hcurrent c (List.mem_reverse.mp hc)
  induction s generalizing current with
  | nil =>
      rw [wordsFrom] at h
      split at h
      · cases h
      · obtain rfl := List.mem_singleton.mp h
        exact hreverse
  | cons d rest ih =>
      have hnil : ∀ c ∈ ([] : List Char), isBlank c = false := List.forall_mem_nil _
      rw [wordsFrom] at h
      split at h
      · split at h
        · exact ih hnil h (List.forall_mem_nil _)
        · rcases List.mem_cons.mp h with rfl | h
          · exact hreverse
          · exact ih hnil h (List.forall_mem_nil _)
      · rename_i hd
        have hcons : ∀ c ∈ d :: current, isBlank c = false := by
          intro c hc
          rcases List.mem_cons.mp hc with rfl | hc
          · exact Bool.eq_false_iff.mpr hd
          · exact hcurrent c hc
        exact ih hcons h fun c hc => hcons c (List.mem_reverse.mp hc)

theorem not_isBlank_of_mem_words {s w : List Char} (h : w ∈ words s) :
    ∀ c ∈ w, isBlank c = false :=
  not_isBlank_of_mem_wordsFrom (List.forall_mem_nil _) h

/-- A maximal run of characters that are no blanks. -/
structure IsWord (s w : List Char) : Prop where
  ne_nil : w ≠ []
  notBlank : ∀ c ∈ w, isBlank c = false
  maximal : ∃ before after, s = before ++ (w ++ after) ∧
    (∀ c ∈ before.getLast?, isBlank c = true) ∧ (∀ c ∈ after.head?, isBlank c = true)

/-- A word that the text continues or holds has a blank or an end of the text at both sides. -/
theorem exists_split_of_mem_wordsFrom {current s w : List Char} (h : w ∈ wordsFrom current s) :
    ∃ before after, current.reverse ++ s = before ++ (w ++ after) ∧
      (∀ c ∈ before.getLast?, isBlank c = true) ∧ (∀ c ∈ after.head?, isBlank c = true) := by
  induction s generalizing current with
  | nil =>
      rw [wordsFrom] at h
      split at h
      · cases h
      · obtain rfl := List.mem_singleton.mp h
        exact ⟨[], [], by simp, by simp, by simp⟩
  | cons d rest ih =>
      -- A blank in front of the rest stands before whatever is found there.
      have hbehind (hd : isBlank d = true) (hrest : w ∈ wordsFrom [] rest) :
          ∃ before after, current.reverse ++ d :: rest = before ++ (w ++ after) ∧
            (∀ c ∈ before.getLast?, isBlank c = true) ∧
              (∀ c ∈ after.head?, isBlank c = true) := by
        obtain ⟨before, after, heq, hbefore, hafter⟩ := ih hrest
        rw [List.reverse_nil, List.nil_append] at heq
        refine ⟨current.reverse ++ d :: before, after, by simp [heq], ?_, hafter⟩
        intro c hc
        cases before with
        | nil =>
            obtain rfl : d = c := by simpa using hc
            exact hd
        | cons b before => exact hbefore c (by simpa using hc)
      rw [wordsFrom] at h
      split at h
      · rename_i hd
        split at h
        · exact hbehind hd h
        · rcases List.mem_cons.mp h with rfl | h
          · exact ⟨[], d :: rest, by simp, by simp, by simpa using hd⟩
          · exact hbehind hd h
      · simpa using ih h

theorem mem_words_iff {s w : List Char} : w ∈ words s ↔ IsWord s w := by
  constructor
  · intro h
    exact ⟨ne_nil_of_mem_words h, not_isBlank_of_mem_words h, exists_split_of_mem_wordsFrom h⟩
  · rintro ⟨hne, hw, before, after, rfl, hbefore, hafter⟩
    exact mem_words hne hw hbefore hafter

end Text

end StylePrune
