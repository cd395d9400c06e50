import StylePrune.Proofs.Pattern.Element
import StylePrune.Proofs.Pattern.Local

/-!
# Reading goes forward

What a reader leaves is no longer than what it was given.  So the fuel that a pattern is read
with is enough for all of it, and more fuel changes nothing.
-/

namespace StylePrune

namespace Pattern

open Text

variable {flags : Flags} {s : List Char}

theorem length_skipBlanks_le (inComment : Bool) (s : List Char) :
    (skipBlanks inComment s).length ≤ s.length := by
  fun_induction skipBlanks inComment s <;> simp only [List.length_cons, List.length_nil] at * <;>
    omega

theorem length_skip_le (flags : Flags) (s : List Char) : (flags.skip s).length ≤ s.length := by
  unfold Flags.skip
  split
  · exact length_skipBlanks_le false s
  · exact Nat.le_refl _

theorem length_dropWhile_lt {p : Char → Bool} {c : Char} {rest : List Char}
    (h : s.dropWhile p = c :: rest) : rest.length < s.length := by
  have hle := (List.dropWhile_suffix (l := s) p).length_le
  rw [h, List.length_cons] at hle
  omega

theorem length_skip_lt {c : Char} {rest : List Char} (h : flags.skip s = c :: rest) :
    rest.length < s.length := by
  have hle := length_skip_le flags s
  rw [h, List.length_cons] at hle
  omega

/-! ## Escapes -/

theorem length_hexFixed?_le {n : Nat} {r : List Char × List Char}
    (h : hexFixed? flags n s = some r) : r.2.length ≤ s.length := by
  induction n generalizing s r with
  | zero =>
      cases h
      exact Nat.le_refl _
  | succ n ih =>
      rw [hexFixed?] at h
      split at h
      · rename_i c rest hskip
        have hrest := length_skip_lt hskip
        split at h
        · obtain ⟨r', hr', rfl⟩ := Option.map_eq_some_iff.mp h
          have := ih hr'
          dsimp only
          omega
        · cases h
      · cases h

theorem length_hexBraced?_le {r : List Char × List Char} (h : hexBraced? flags s = some r) :
    r.2.length ≤ s.length := by
  revert h
  fun_cases hexBraced? flags s with
  | case1 => simp
  | case2 => simp
  | case3 body digits c rest hrest hdigits =>
      intro h
      have := length_dropWhile_lt hrest
      cases h
      dsimp only
      omega

theorem length_hexChar?_le {n : Nat} {r : Char × List Char} (h : hexChar? flags n s = some r) :
    r.2.length ≤ s.length := by
  rw [hexChar?_eq] at h
  obtain ⟨digits, hdigits, hr⟩ := Option.bind_eq_some_iff.mp h
  obtain ⟨c, -, rfl⟩ := Option.map_eq_some_iff.mp hr
  have hskip := length_skip_le flags s
  generalize flags.skip s = t at *
  fun_cases hexDigits? flags n t with
  | case1 rest =>
      have := length_hexBraced?_le hdigits
      simp only [List.length_cons] at hskip
      dsimp only
      omega
  | case2 t hne =>
      rw [hexDigits?.eq_2 _ _ _ hne] at hdigits
      have := length_hexFixed?_le hdigits
      dsimp only
      omega

theorem length_propertyEscape?_le {r : CharSet × List Char}
    (h : propertyEscape? flags s = some r) : r.2.length ≤ s.length := by
  unfold propertyEscape? at h
  split at h
  · cases h
  · rename_i rest hskip
    have hrest := length_skip_lt hskip
    split at h
    · cases h
    · rename_i c after hafter
      have := length_dropWhile_lt hafter
      obtain ⟨set, -, hr⟩ := Option.bind_eq_some_iff.mp h
      cases hr
      dsimp only
      omega
  · cases h
  · rename_i c rest _ _ hskip
    have hrest := length_skip_lt hskip
    obtain ⟨set, -, hr⟩ := Option.bind_eq_some_iff.mp h
    cases hr
    dsimp only
    omega

theorem length_boundaryNamed?_le {r : Option Look × List Char}
    (h : boundaryNamed? flags s = some r) : r.2.length ≤ s.length := by
  revert h
  fun_cases boundaryNamed? flags s with
  | case1 => simp
  | case2 rest isNamePart name hname after hafter look =>
      rintro ⟨⟩
      have := length_dropWhile_lt hafter
      have := length_skip_le flags rest
      simp only [List.length_cons]
      omega
  | case3 rest isNamePart name hname hafter =>
      rintro ⟨⟩
      have := (List.dropWhile_suffix (l := flags.skip rest) isNamePart).length_le
      have := length_skip_le flags rest
      simp only [List.length_cons]
      omega
  | case4 => simp

theorem length_charClass_le {negated : Bool} {full ascii : CharSet} {r : Escape × List Char}
    (h : readEscape?.charClass flags negated full ascii s = some r) : r.2.length ≤ s.length := by
  obtain ⟨set, -, rfl⟩ := Option.map_eq_some_iff.mp h
  exact Nat.le_refl _

theorem length_readEscape?_lt {r : Escape × List Char} (h : readEscape? flags s = some r) :
    r.2.length < s.length := by
  revert h
  fun_cases readEscape? flags s with
  | case1 | case6 | case8 | case24 | case30 => simp
  | case2 rest | case3 rest | case4 rest =>
      intro h
      obtain ⟨r', hr', rfl⟩ := Option.map_eq_some_iff.mp h
      exact Nat.lt_succ_of_le (length_hexChar?_le hr')
  | case5 rest | case7 rest =>
      intro h
      obtain ⟨r', hr', rfl⟩ := Option.map_eq_some_iff.mp h
      exact Nat.lt_succ_of_le (length_propertyEscape?_le hr')
  | case9 rest | case10 rest | case11 rest | case12 rest | case13 rest | case14 rest =>
      exact fun h => Nat.lt_succ_of_le (length_charClass_le h)
  | case23 rest l rest' hread =>
      rintro ⟨⟩
      exact Nat.lt_succ_of_le (length_boundaryNamed?_le hread)
  | _ =>
      rintro ⟨⟩
      exact Nat.lt_succ_self _

/-! ## Sets in brackets -/

theorem length_bracketClass?_lt {r : CharSet × List Char} (h : bracketClass? s = some r) :
    r.2.length < s.length := by
  rw [bracketClass?_eq] at h
  obtain ⟨start, hstart, hr⟩ := Option.bind_eq_some_iff.mp h
  have hlt : start.2.length < s.length := by
    revert hstart
    fun_cases bracketStart? s with
    | case1 rest | case2 rest =>
        rintro ⟨⟩
        simp only [List.length_cons]
        omega
    | case3 => simp
  revert hr
  fun_cases classNamed? start.1 start.2 with
  | case1 after hafter =>
      intro hr
      have := length_dropWhile_lt hafter
      obtain ⟨set, -, hset⟩ := Option.bind_eq_some_iff.mp hr
      cases hset
      simp only [List.length_cons] at this
      dsimp only
      omega
  | case2 => simp

theorem length_setItem?_lt {r : Escape × List Char} (h : setItem? flags s = some r) :
    r.2.length < s.length := by
  revert h
  fun_cases setItem? flags s with
  | case1 => simp
  | case2 rest => exact fun h => Nat.lt_succ_of_lt (length_readEscape?_lt h)
  | case3 c rest hc =>
      rintro ⟨⟩
      exact Nat.lt_succ_self _

theorem length_rangeFollows?_le {t : List Char} (h : rangeFollows? flags s = some t) :
    t.length ≤ s.length := by
  revert h
  fun_cases rangeFollows? flags s with
  | case1 | case2 | case4 => simp
  | case3 rest h1 h2 =>
      rintro ⟨⟩
      exact Nat.le_succ_of_le (length_skip_le flags rest)

theorem length_setRange?_lt {r : CharSet × List Char} (h : setRange? flags s = some r) :
    r.2.length < s.length := by
  rw [setRange?_eq] at h
  obtain ⟨item, hitem, hr⟩ := Option.bind_eq_some_iff.mp h
  have hlt := length_setItem?_lt hitem
  split at hr
  · obtain ⟨set, -, rfl⟩ := Option.map_eq_some_iff.mp hr
    exact hlt
  · rename_i t ht
    have hle := length_rangeFollows?_le ht
    have hskip := length_skip_le flags item.2
    obtain ⟨last, hlast, hr⟩ := Option.bind_eq_some_iff.mp hr
    have hlast := length_setItem?_lt hlast
    split at hr
    · split at hr
      · cases hr
        dsimp only
        omega
      · cases hr
    · cases hr

theorem length_openSet?_le {r : OpenSet × List Char} (h : openSet? flags s = some r) :
    r.2.length ≤ s.length := by
  rw [openSet?_eq] at h
  dsimp only at h
  have hcaret : (afterCaret flags s).2.length ≤ s.length := by
    have hskip := length_skip_le flags s
    fun_cases afterCaret flags s with
    | case1 rest hrest =>
        have := length_skip_le flags rest
        have := length_skip_lt hrest
        dsimp only
        omega
    | case2 => exact hskip
  have hskip := length_skip_le flags ((afterCaret flags s).2.dropWhile (· == '-'))
  have hdrop := (List.dropWhile_suffix (l := (afterCaret flags s).2) (· == '-')).length_le
  split at h
  · cases h
  · have hle : ∀ {negated hyphens t},
        openSetAt? negated hyphens t = some r → r.2.length ≤ t.length := by
      intro negated hyphens t
      fun_cases openSetAt? negated hyphens t with
      | case1 => simp
      | case2 set rest =>
          rintro ⟨⟩
          exact Nat.le_succ _
      | case3 =>
          rintro ⟨⟩
          exact Nat.le_refl _
    have := hle h
    omega

theorem length_setStep?_lt {current : OpenSet} {outer : List OpenSet} {r : SetStep × List Char}
    (h : setStep? flags current outer s = some r) : r.2.length < s.length := by
  revert h
  fun_cases setStep? flags current outer s with
  | case1 => simp
  | case2 _ rest set after hclass =>
      rw [hclass]
      rintro ⟨⟩
      exact length_bracketClass?_lt hclass
  | case3 _ rest hclass =>
      rw [hclass]
      intro h
      obtain ⟨r', hr', rfl⟩ := Option.map_eq_some_iff.mp h
      exact Nat.lt_succ_of_le (length_openSet?_le hr')
  | case4 | case5 | case6 | case7 | case8 =>
      rintro ⟨⟩
      simp only [List.length_cons]
      omega
  | case9 =>
      intro h
      obtain ⟨r', hr', rfl⟩ := Option.map_eq_some_iff.mp h
      exact length_setRange?_lt hr'

/-- With fuel for every character, more fuel changes nothing. -/
theorem readSets_fuel {fuel : Nat} {current : OpenSet} {outer : List OpenSet}
    (h : s.length < fuel) :
    readSets flags (fuel + 1) current outer s = readSets flags fuel current outer s := by
  induction fuel generalizing current outer s with
  | zero => omega
  | succ fuel ih =>
      rw [readSets_succ, readSets_succ flags fuel]
      cases hstep : setStep? flags current outer (flags.skip s) with
      | none => rfl
      | some r =>
          obtain ⟨step, rest⟩ := r
          have hrest : rest.length < s.length :=
            Nat.lt_of_lt_of_le (length_setStep?_lt hstep) (length_skip_le flags s)
          have hfuel : rest.length < fuel := by omega
          cases step with
          | closed set => rfl
          | opened current outer => exact ih hfuel

theorem length_readSets_lt {fuel : Nat} {current : OpenSet} {outer : List OpenSet}
    {r : NestedSet × List Char} (h : readSets flags fuel current outer s = some r) :
    r.2.length < s.length := by
  induction fuel generalizing current outer s with
  | zero => cases h
  | succ fuel ih =>
      rw [readSets_succ] at h
      obtain ⟨⟨step, rest⟩, hstep, h⟩ := Option.bind_eq_some_iff.mp h
      have hrest : rest.length < s.length :=
        Nat.lt_of_lt_of_le (length_setStep?_lt hstep) (length_skip_le flags s)
      cases step with
      | closed set =>
          cases h
          exact hrest
      | opened current outer => exact Nat.lt_trans (ih h) hrest

theorem isLocal_bracketSet? (flags : Flags) : IsLocal (bracketSet? flags) := by
  intro s
  unfold bracketSet?
  have hlength : (s ++ [')']).length + 1 = s.length + 1 + 1 := by simp
  rw [hlength]
  rcases openSet?_append flags s with h | ⟨h, hlast⟩
  · rw [h]
    cases hopen : openSet? flags s with
    | none => rfl
    | some r =>
        have hle := length_openSet?_le hopen
        change readSets flags (s.length + 1 + 1) r.1 [] (r.2 ++ [')']) = _
        rw [isLocal_readSets, readSets_fuel (by omega)]
        rfl
  · rw [h]
    cases hopen : openSet? flags (s ++ [')']) with
    | none => rfl
    | some r =>
        obtain ⟨set, rest⟩ := r
        obtain rfl : rest = [')'] := hlast _ hopen
        exact readSets_close flags _ set []

theorem length_bracketSet?_le {r : NestedSet × List Char} (h : bracketSet? flags s = some r) :
    r.2.length ≤ s.length := by
  obtain ⟨r', hr', h⟩ := Option.bind_eq_some_iff.mp h
  have := length_openSet?_le hr'
  have := length_readSets_lt h
  omega

/-! ## Repetition -/

theorem length_dropLazy_le (s : List Char) : (dropLazy s).length ≤ s.length := by
  fun_cases dropLazy s <;> simp

theorem length_countNumber?_le (flags : Flags) (s : List Char) :
    (countNumber? flags s).2.length ≤ s.length := by
  have hblanks := (List.dropWhile_suffix (l := s) isBlank).length_le
  have hskip := length_skip_le flags (dropBlanks s)
  have hdigits := (List.dropWhile_suffix (l := flags.skip (dropBlanks s)) Char.isDigit).length_le
  have hskip' := length_skip_le flags ((flags.skip (dropBlanks s)).dropWhile Char.isDigit)
  have hend := (List.dropWhile_suffix
    (l := flags.skip ((flags.skip (dropBlanks s)).dropWhile Char.isDigit)) isBlank).length_le
  have hrest : (countNumber? flags s).2 =
      dropBlanks (flags.skip ((flags.skip (dropBlanks s)).dropWhile Char.isDigit)) := by
    unfold countNumber?
    dsimp only
    split <;> rfl
  rw [hrest]
  unfold dropBlanks at *
  omega

theorem length_counts?_le {r : (Nat × Option Nat) × List Char} (h : counts? flags s = some r) :
    r.2.length ≤ s.length := by
  rw [counts?_eq] at h
  have hnumber := length_countNumber?_le flags s
  generalize (countNumber? flags s).1 = n at h
  generalize (countNumber? flags s).2 = t at h hnumber
  revert h
  fun_cases countsFrom? flags n t with
  | case1 n rest =>
      rintro ⟨⟩
      simp only [List.length_cons] at hnumber
      dsimp only
      omega
  | case2 n rest after hafter =>
      rintro ⟨⟩
      have := length_skip_lt hafter
      simp only [List.length_cons] at hnumber
      dsimp only
      omega
  | case3 n rest hrest =>
      intro h
      have hskip := length_skip_le flags rest
      have hcount := length_countNumber?_le flags (flags.skip rest)
      unfold boundedCounts? at h
      split at h
      · rename_i most after heq
        split at h
        · cases h
          rw [heq] at hcount
          simp only [List.length_cons] at hnumber hcount
          dsimp only
          omega
        · cases h
      · cases h
  | case4 => simp

/-! ## Elements -/

theorem length_namedStart?_le {r : Element × List Char} (h : namedStart? flags s = some r) :
    r.2.length ≤ s.length := by
  revert h
  fun_cases namedStart? flags s with
  | case1 | case3 => simp
  | case2 c after hafter hname =>
      rintro ⟨⟩
      exact Nat.le_of_lt (length_dropWhile_lt hafter)

theorem length_flaggedStart?_le {r : Element × List Char} (h : flaggedStart? flags s = some r) :
    r.2.length ≤ s.length := by
  revert h
  fun_cases flaggedStart? flags s with
  | case1 after hafter =>
      intro h
      obtain ⟨inner, -, rfl⟩ := Option.map_eq_some_iff.mp h
      exact Nat.le_of_lt (length_dropWhile_lt hafter)
  | case3 after hafter hletters =>
      intro h
      obtain ⟨set, -, rfl⟩ := Option.map_eq_some_iff.mp h
      exact Nat.le_of_lt (length_dropWhile_lt hafter)
  | case2 | case4 => simp

theorem length_groupStart?_le {r : Element × List Char} (h : groupStart? flags s = some r) :
    r.2.length ≤ s.length := by
  revert h
  fun_cases groupStart? flags s with
  | case1 | case2 | case3 | case4 => simp
  | case5 rest | case6 rest =>
      intro h
      have := length_namedStart?_le h
      simp only [List.length_cons]
      omega
  | case7 rest =>
      intro h
      have := length_flaggedStart?_le h
      simp only [List.length_cons]
      omega
  | case8 =>
      rintro ⟨⟩
      exact Nat.le_refl _

/-- Every element of a pattern takes some of it. -/
theorem length_element?_lt {r : Element × List Char} (h : element? flags s = some r) :
    r.2.length < s.length := by
  revert h
  fun_cases element? flags s with
  | case1 => simp
  | case2 rest =>
      intro h
      exact Nat.lt_succ_of_le
        (Nat.le_trans (length_groupStart?_le h) (length_skip_le flags rest))
  | case3 | case4 | case12 | case13 =>
      rintro ⟨⟩
      exact Nat.lt_succ_self _
  | case5 rest =>
      intro h
      obtain ⟨set, hset, rfl⟩ := Option.map_eq_some_iff.mp h
      exact Nat.lt_succ_of_le (length_bracketSet?_le hset)
  | case6 rest | case7 rest | case8 rest =>
      rintro ⟨⟩
      exact Nat.lt_succ_of_le (length_dropLazy_le rest)
  | case9 rest =>
      intro h
      obtain ⟨counts, hcounts, rfl⟩ := Option.map_eq_some_iff.mp h
      exact Nat.lt_succ_of_le
        (Nat.le_trans (length_dropLazy_le counts.2) (length_counts?_le hcounts))
  | case10 rest =>
      intro h
      obtain ⟨escape, hescape, h⟩ := Option.bind_eq_some_iff.mp h
      obtain ⟨e, -, rfl⟩ := Option.map_eq_some_iff.mp h
      exact Nat.lt_succ_of_lt (length_readEscape?_lt hescape)
  | case11 rest | case14 c rest =>
      intro h
      obtain ⟨e, -, rfl⟩ := Option.map_eq_some_iff.mp h
      exact Nat.lt_succ_self _

end Pattern

end StylePrune
