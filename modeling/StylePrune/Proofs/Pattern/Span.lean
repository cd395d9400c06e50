import StylePrune.Proofs.Pattern.Search

/-!
# Matches as splits of a text

A span of a text splits it into what stands before the span, the span and what follows.  An
expression for parts in order splits the span again.
-/

namespace StylePrune

namespace Pattern

namespace Regex

/-- The expression matches `w` where it stands between `before` and `after`. -/
def MatchesAt (r : Regex) (before w after : List Char) : Prop :=
  Matches (before ++ (w ++ after)).toArray r before.length (before.length + w.length)

variable {r s : Regex} {before w after : List Char}

/-- Every span that is matched splits the text. -/
theorem exists_split_of_matches {text : List Char} {p q : Nat}
    (h : Matches text.toArray r p q) (hp : p ≤ text.length) :
    ∃ before w after, text = before ++ (w ++ after) ∧ before.length = p ∧
      before.length + w.length = q := by
  obtain ⟨hpq, hq⟩ := isForward_matches text.toArray r h (by simpa using hp)
  rw [List.size_toArray] at hq
  refine ⟨text.take p, (text.drop p).take (q - p), (text.drop p).drop (q - p), ?_, ?_, ?_⟩
  · rw [List.take_append_drop, List.take_append_drop]
  · rw [List.length_take]
    omega
  · rw [List.length_take, List.length_take, List.length_drop]
    omega

/-- There is a match exactly if a part of the text is matched where it stands. -/
theorem isMatch_iff_matchesAt (h : r.IsOrdered) (text : String) :
    r.isMatch text = true ↔
      ∃ before w after, text.toList = before ++ (w ++ after) ∧ r.MatchesAt before w after := by
  rw [isMatch_iff h]
  constructor
  · rintro ⟨p, hp, q, hm⟩
    obtain ⟨before, w, after, htext, rfl, rfl⟩ := exists_split_of_matches hm hp
    exact ⟨before, w, after, htext, by rwa [MatchesAt, ← htext]⟩
  · rintro ⟨before, w, after, htext, hm⟩
    rw [htext]
    exact ⟨before.length, by simp, _, hm⟩

theorem matchesAt_empty_iff : empty.MatchesAt before w after ↔ w = [] := by
  rw [MatchesAt, matches_empty_iff, ← List.length_eq_zero_iff]
  omega

theorem matchesAt_look_iff {l : Look} :
    (look l).MatchesAt before w after ↔
      w = [] ∧ l.holds (before ++ after).toArray before.length = true := by
  rw [MatchesAt, matches_look_iff]
  constructor
  · rintro ⟨hw, hl⟩
    obtain rfl : w = [] := List.length_eq_zero_iff.mp (by omega)
    exact ⟨rfl, hl⟩
  · rintro ⟨rfl, hl⟩
    exact ⟨rfl, hl⟩

theorem matchesAt_textStart_iff :
    (look .textStart).MatchesAt before w after ↔ w = [] ∧ before = [] := by
  simp [matchesAt_look_iff, Look.holds]

theorem matchesAt_textEnd_iff :
    (look .textEnd).MatchesAt before w after ↔ w = [] ∧ after = [] := by
  simp [matchesAt_look_iff, Look.holds]

theorem matchesAt_set_iff {s : CharSet} :
    (set s).MatchesAt before w after ↔ ∃ c, w = [c] ∧ s.contains c = true := by
  rw [MatchesAt, matches_set_iff]
  constructor
  · rintro ⟨hw, c, hc, hs⟩
    obtain ⟨x, rfl⟩ := List.length_eq_one_iff.mp (show w.length = 1 by omega)
    obtain rfl : x = c := by simpa using hc
    exact ⟨x, rfl, hs⟩
  · rintro ⟨c, rfl, hs⟩
    exact ⟨rfl, c, by simp, hs⟩

theorem matchesAt_alt_iff :
    (alt r s).MatchesAt before w after ↔ r.MatchesAt before w after ∨ s.MatchesAt before w after :=
  matches_alt_iff

/-- Two expressions in order match the two parts of a split. -/
theorem matchesAt_seq_iff :
    (seq r s).MatchesAt before w after ↔
      ∃ u v, w = u ++ v ∧ r.MatchesAt before u (v ++ after) ∧
        s.MatchesAt (before ++ u) v after := by
  rw [MatchesAt, matches_seq_iff]
  constructor
  · rintro ⟨m, hr, hs⟩
    -- The position between the two matches lies in `w` and cuts it.
    obtain ⟨hpm, hm⟩ := isForward_matches _ r hr (by simp)
    obtain ⟨hmq, -⟩ := isForward_matches _ s hs hm
    obtain ⟨u, v, rfl, hu⟩ : ∃ u v, w = u ++ v ∧ before.length + u.length = m := by
      refine ⟨w.take (m - before.length), w.drop (m - before.length), ?_, ?_⟩
      · rw [List.take_append_drop]
      · rw [List.length_take]
        omega
    subst hu
    refine ⟨u, v, rfl, ?_, ?_⟩
    · rwa [List.append_assoc] at hr
    · simpa [MatchesAt, Nat.add_assoc] using hs
  · rintro ⟨u, v, rfl, hr, hs⟩
    refine ⟨before.length + u.length, ?_, ?_⟩
    · rwa [List.append_assoc]
    · simpa [MatchesAt, Nat.add_assoc] using hs

theorem matchesAt_optional_iff :
    (rep r 0 (some 1)).MatchesAt before w after ↔ w = [] ∨ r.MatchesAt before w after := by
  rw [MatchesAt, matches_rep_iff]
  constructor
  · rintro ⟨k, -, hmost, hk⟩
    have hle : k ≤ 1 := hmost 1 rfl
    obtain rfl | rfl : k = 0 ∨ k = 1 := by omega
    · have hw : before.length = before.length + w.length := hk
      exact .inl (List.length_eq_zero_iff.mp (by omega))
    · obtain ⟨m, hr, rfl⟩ := hk
      exact .inr hr
  · rintro (rfl | hr)
    · exact ⟨0, Nat.le_refl 0, by simp, rfl⟩
    · exact ⟨1, Nat.zero_le 1, by simp, _, hr, rfl⟩

/-- Every step over a set takes one character. -/
theorem steps_set_iff {s : CharSet} {k : Nat} :
    Steps (Matches (before ++ (w ++ after)).toArray (set s)) k before.length
      (before.length + w.length) ↔ k = w.length ∧ ∀ c ∈ w, s.contains c = true := by
  induction w generalizing before k with
  | nil =>
      cases k with
      | zero => simp [Steps]
      | succ k =>
          constructor
          · rintro ⟨m, hm, hk⟩
            have hforward := isForward_matches (before ++ after).toArray (set s)
            obtain ⟨rfl, -⟩ := matches_set_iff.mp hm
            have hle := (hforward.exists_steps_le hk (hforward hm (by simp)).2).1
            rw [List.length_nil] at hle
            omega
          · simp
  | cons c rest ih =>
      cases k with
      | zero => simp [Steps]
      | succ k =>
          -- After the first step its character stands before the rest.
          have hnext := @ih (before ++ [c]) k
          have hlen : (before ++ [c]).length + rest.length =
              before.length + (c :: rest).length := by
            simp only [List.length_append, List.length_cons, List.length_nil]
            omega
          rw [List.append_assoc, hlen] at hnext
          simp only [Steps, matches_set_iff, List.forall_mem_cons, List.length_cons,
            Nat.add_right_cancel_iff]
          constructor
          · rintro ⟨m, ⟨rfl, x, hx, hs⟩, hk⟩
            obtain rfl : c = x := by simpa using hx
            obtain ⟨hlength, hrest⟩ := hnext.mp (by simpa using hk)
            exact ⟨hlength, hs, hrest⟩
          · rintro ⟨hlength, hs, hrest⟩
            exact ⟨_, ⟨rfl, c, by simp, hs⟩, by simpa using hnext.mpr ⟨hlength, hrest⟩⟩

theorem matchesAt_star_set_iff {s : CharSet} :
    (rep (set s) 0 none).MatchesAt before w after ↔ ∀ c ∈ w, s.contains c = true := by
  rw [MatchesAt, matches_rep_iff]
  simp [steps_set_iff]

/-! ## Many in order, and one of many -/

theorem matchesAt_seqAll_nil_iff : (seqAll []).MatchesAt before w after ↔ w = [] :=
  matchesAt_empty_iff

theorem matchesAt_seqAll_cons_iff {rs : List Regex} :
    (seqAll (r :: rs)).MatchesAt before w after ↔
      ∃ u v, w = u ++ v ∧ r.MatchesAt before u (v ++ after) ∧
        (seqAll rs).MatchesAt (before ++ u) v after := by
  cases rs with
  | nil =>
      simp only [seqAll, matchesAt_empty_iff]
      constructor
      · intro h
        exact ⟨w, [], by simp, by simpa using h, rfl⟩
      · rintro ⟨u, v, rfl, h, rfl⟩
        simpa using h
  | cons r' rest => exact matchesAt_seq_iff

/-- The characters of a text in order match that text alone. -/
theorem matchesAt_literal_iff {t : List Char} :
    (literal t).MatchesAt before w after ↔ w = t := by
  induction t generalizing before w with
  | nil => exact matchesAt_seqAll_nil_iff
  | cons c rest ih =>
      simp only [literal, List.map_cons] at ih ⊢
      simp only [matchesAt_seqAll_cons_iff, matchesAt_set_iff, CharSet.contains_single, ih]
      constructor
      · rintro ⟨u, v, rfl, ⟨x, rfl, rfl⟩, rfl⟩
        rfl
      · rintro rfl
        exact ⟨[c], rest, rfl, ⟨c, rfl, rfl⟩, rfl⟩

theorem matchesAt_altAll_iff {rs : List Regex} (h : rs ≠ []) :
    (altAll rs).MatchesAt before w after ↔ ∃ r ∈ rs, r.MatchesAt before w after := by
  induction rs with
  | nil => exact absurd rfl h
  | cons r rest ih =>
      cases rest with
      | nil => simp [altAll]
      | cons r' rest =>
          have hstep : altAll (r :: r' :: rest) = alt r (altAll (r' :: rest)) := rfl
          rw [hstep, matchesAt_alt_iff, ih (by simp)]
          simp

/-! ## Bounds in order -/

theorem isOrdered_seqAll {rs : List Regex} (h : ∀ r ∈ rs, r.IsOrdered) : (seqAll rs).IsOrdered := by
  induction rs with
  | nil => trivial
  | cons r rest ih =>
      have hr := h r List.mem_cons_self
      cases rest with
      | nil => exact hr
      | cons r' rest => exact ⟨hr, ih fun x hx => h x (List.mem_cons_of_mem r hx)⟩

theorem isOrdered_altAll {rs : List Regex} (h : ∀ r ∈ rs, r.IsOrdered) : (altAll rs).IsOrdered := by
  induction rs with
  | nil => trivial
  | cons r rest ih =>
      have hr := h r List.mem_cons_self
      cases rest with
      | nil => exact hr
      | cons r' rest => exact ⟨hr, ih fun x hx => h x (List.mem_cons_of_mem r hx)⟩

/-! ## From a place on -/

/-- The expressions in order match from the end of `before` on, where `rest` follows. -/
def MatchesFrom (rs : List Regex) (before rest : List Char) : Prop :=
  ∃ w after, rest = w ++ after ∧ (seqAll rs).MatchesAt before w after

theorem matchesFrom_nil {rest : List Char} : MatchesFrom [] before rest :=
  ⟨[], rest, rfl, matchesAt_seqAll_nil_iff.mpr rfl⟩

theorem matchesFrom_cons_iff {rs : List Regex} {rest : List Char} :
    MatchesFrom (r :: rs) before rest ↔
      ∃ u v, rest = u ++ v ∧ r.MatchesAt before u v ∧ MatchesFrom rs (before ++ u) v := by
  simp only [MatchesFrom, matchesAt_seqAll_cons_iff]
  constructor
  · rintro ⟨w, after, rfl, u, v, rfl, hr, hrs⟩
    exact ⟨u, v ++ after, by simp, hr, v, after, rfl, hrs⟩
  · rintro ⟨u, v, rfl, hr, w, after, rfl, hrs⟩
    exact ⟨u ++ w, after, by simp, u, w, rfl, hr, hrs⟩

/-- The search for parts in order tries every place. -/
theorem isMatch_seqAll_iff {rs : List Regex} (h : ∀ r ∈ rs, r.IsOrdered) (text : String) :
    (seqAll rs).isMatch text = true ↔
      ∃ before rest, text.toList = before ++ rest ∧ MatchesFrom rs before rest := by
  rw [isMatch_iff_matchesAt (isOrdered_seqAll h)]
  constructor
  · rintro ⟨before, w, after, htext, hm⟩
    exact ⟨before, w ++ after, htext, w, after, rfl, hm⟩
  · rintro ⟨before, rest, htext, w, after, rfl, hm⟩
    exact ⟨before, w, after, htext, hm⟩

/-- The search for one of many finds what the search for one of them finds. -/
theorem isMatch_altAll_iff {rs : List Regex} (hne : rs ≠ []) (h : ∀ r ∈ rs, r.IsOrdered)
    (text : String) :
    (altAll rs).isMatch text = true ↔ ∃ r ∈ rs, r.isMatch text = true := by
  rw [isMatch_iff_matchesAt (isOrdered_altAll h)]
  simp only [matchesAt_altAll_iff hne]
  constructor
  · rintro ⟨before, w, after, htext, r, hr, hm⟩
    exact ⟨r, hr, (isMatch_iff_matchesAt (h r hr) text).mpr ⟨before, w, after, htext, hm⟩⟩
  · rintro ⟨r, hr, hm⟩
    obtain ⟨before, w, after, htext, hm⟩ := (isMatch_iff_matchesAt (h r hr) text).mp hm
    exact ⟨before, w, after, htext, r, hr, hm⟩

end Regex

end Pattern

end StylePrune
