import StylePrune.Pattern.Regex

/-!
# The search for a match

The search carries sets of positions.  The set of ends that it finds for an expression is the
image of the set of starts under the spans that the expression matches; so it finds a match
exactly where some span of the text is matched.
-/

namespace StylePrune

namespace Pattern

namespace Positions

def Has (set : Positions) (p : Nat) : Prop :=
  set.testBit p = true

def IsUpTo (n : Nat) (set : Positions) : Prop :=
  ∀ p, Has set p → p ≤ n

theorem has_or {s t : Positions} {p : Nat} : Has (s ||| t) p ↔ Has s p ∨ Has t p := by
  simp [Has]

theorem has_and {s t : Positions} {p : Nat} : Has (s &&& t) p ↔ Has s p ∧ Has t p := by
  simp [Has]

theorem has_shiftLeft_one {s : Positions} {q : Nat} :
    Has (s <<< 1) q ↔ ∃ p, Has s p ∧ q = p + 1 := by
  cases q with
  | zero => simp [Has]
  | succ q => simp [Has]

theorem has_one_shiftLeft {i p : Nat} : Has (1 <<< i) p ↔ p = i := by
  simp [Has, Nat.one_shiftLeft, Nat.testBit_two_pow, eq_comm]

/-- Adding the positions of a list that satisfy `f` one by one. -/
theorem has_foldl_add {f : Nat → Bool} {l : List Nat} {set : Positions} {p : Nat} :
    Has (l.foldl (fun set i => if f i then set ||| (1 <<< i) else set) set) p ↔
      Has set p ∨ (p ∈ l ∧ f p = true) := by
  induction l generalizing set with
  | nil => simp
  | cons i rest ih =>
      rw [List.foldl_cons, ih, List.mem_cons]
      by_cases hi : f i = true
      · rw [if_pos hi, has_or, has_one_shiftLeft]
        grind
      · rw [if_neg hi]
        grind

theorem has_upTo {n p : Nat} {f : Nat → Bool} : Has (upTo n f) p ↔ p ≤ n ∧ f p = true := by
  have hzero : ¬Has 0 p := by simp [Has]
  rw [upTo, has_foldl_add, List.mem_range, Nat.lt_succ_iff]
  simp [hzero]

theorem has_all {n p : Nat} : Has (all n) p ↔ p ≤ n := by
  rw [Has, all, Nat.one_shiftLeft, Nat.testBit_two_pow_sub_one, decide_eq_true_eq,
    Nat.lt_succ_iff]

theorem exists_has_iff {s : Positions} : (∃ p, Has s p) ↔ s ≠ 0 := by
  constructor
  · rintro ⟨p, hp⟩ rfl
    simp [Has] at hp
  · intro h
    obtain ⟨p, hp⟩ := Nat.exists_testBit_of_ne_zero h
    exact ⟨p, hp⟩

end Positions

open Positions

/-! ## Images -/

def Steps (R : Nat → Nat → Prop) : Nat → Nat → Nat → Prop
  | 0, p, q => p = q
  | k + 1, p, q => ∃ m, R p m ∧ Steps R k m q

namespace Steps

variable {R : Nat → Nat → Prop}

theorem add_iff {j k p q : Nat} :
    Steps R (j + k) p q ↔ ∃ m, Steps R j p m ∧ Steps R k m q := by
  induction j generalizing p with
  | zero => simp [Steps]
  | succ j ih =>
      simp only [Nat.succ_add, Steps, ih]
      grind

theorem eq_or_iff {k p q : Nat} :
    Steps (fun a b => a = b ∨ R a b) k p q ↔ ∃ j ≤ k, Steps R j p q := by
  induction k generalizing p with
  | zero => simp [Steps]
  | succ k ih =>
      simp only [Steps, ih]
      constructor
      · rintro ⟨m, rfl | hm, j, hj, hs⟩
        · exact ⟨j, by omega, hs⟩
        · exact ⟨j + 1, by omega, m, hm, hs⟩
      · rintro ⟨j, hj, hs⟩
        cases j with
        | zero => exact ⟨p, .inl rfl, 0, Nat.zero_le k, hs⟩
        | succ j =>
            obtain ⟨m, hm, hs⟩ := hs
            exact ⟨m, .inr hm, j, by omega, hs⟩

end Steps

/-- No step goes back, and none leaves the text of `n` characters. -/
def IsForward (n : Nat) (R : Nat → Nat → Prop) : Prop :=
  ∀ ⦃p q : Nat⦄, R p q → p ≤ n → p ≤ q ∧ q ≤ n

/-- Steps that do not go back need not be more than the distance. -/
theorem IsForward.exists_steps_le {n : Nat} {R : Nat → Nat → Prop} (hR : IsForward n R)
    {k p q : Nat} (h : Steps R k p q) (hp : p ≤ n) :
    p ≤ q ∧ q ≤ n ∧ ∃ j ≤ q - p, Steps R j p q := by
  induction k generalizing p with
  | zero =>
      obtain rfl : p = q := h
      exact ⟨Nat.le_refl p, hp, 0, Nat.zero_le _, rfl⟩
  | succ k ih =>
      obtain ⟨m, hr, hs⟩ := h
      obtain ⟨hpm, hm⟩ := hR hr hp
      obtain ⟨hmq, hq, j, hj, hs⟩ := ih hs hm
      refine ⟨Nat.le_trans hpm hmq, hq, ?_⟩
      -- A step that stays where it is can be left out.
      by_cases he : p = m
      · subst he
        exact ⟨j, hj, hs⟩
      · exact ⟨j + 1, by omega, m, hr, hs⟩

/-- `f` takes a set of positions up to `n` to the positions that they are related to. -/
structure IsImage (n : Nat) (R : Nat → Nat → Prop) (f : Positions → Positions) : Prop where
  has_iff : ∀ {set : Positions}, IsUpTo n set → ∀ q : Nat,
    Has (f set) q ↔ ∃ p, Has set p ∧ R p q

namespace IsImage

variable {n : Nat} {R S : Nat → Nat → Prop} {f g : Positions → Positions}

theorem isUpTo (hf : IsImage n R f) (hR : IsForward n R) {set : Positions}
    (hs : IsUpTo n set) : IsUpTo n (f set) := by
  intro q hq
  obtain ⟨p, hp, hr⟩ := (hf.has_iff hs q).mp hq
  exact (hR hr (hs p hp)).2

theorem congr (hf : IsImage n R f) (h : ∀ p q, R p q ↔ S p q) : IsImage n S f where
  has_iff hs q := by
    rw [hf.has_iff hs]
    simp only [h]

theorem id (n : Nat) : IsImage n (fun p q => p = q) fun set => set where
  has_iff _ q := by simp

theorem comp (hf : IsImage n R f) (hR : IsForward n R) (hg : IsImage n S g) :
    IsImage n (fun p q => ∃ m, R p m ∧ S m q) fun set => g (f set) where
  has_iff hs q := by
    rw [hg.has_iff (hf.isUpTo hR hs)]
    simp only [hf.has_iff hs]
    grind

theorem or (hf : IsImage n R f) (hg : IsImage n S g) :
    IsImage n (fun p q => R p q ∨ S p q) fun set => f set ||| g set where
  has_iff hs q := by
    rw [has_or, hf.has_iff hs, hg.has_iff hs]
    grind

theorem iterate (hf : IsImage n R f) (hR : IsForward n R) (k : Nat) :
    IsImage n (Steps R k) (Pattern.iterate f k) := by
  induction k with
  | zero => exact id n
  | succ k ih => exact hf.comp hR ih

theorem has_closure_iff (hf : IsImage n R f) (hR : IsForward n R) {fuel : Nat}
    {set : Positions} (hs : IsUpTo n set) {q : Nat} :
    Has (Positions.closure f fuel set) q ↔ ∃ p, Has set p ∧ ∃ j ≤ fuel, Steps R j p q := by
  have hmore : IsImage n (fun p q => p = q ∨ R p q) fun set => set ||| f set := (id n).or hf
  induction fuel generalizing set with
  | zero => simp [Positions.closure, Steps]
  | succ fuel ih =>
      rw [Positions.closure]
      by_cases hstable : set ||| f set = set
      · -- Nothing is added, so every step stays in the set.
        have hstep : ∀ {p m : Nat}, Has set p → R p m → Has set m := by
          intro p m hp hr
          rw [← hstable]
          exact (hmore.has_iff hs m).mpr ⟨p, hp, .inr hr⟩
        rw [if_pos hstable]
        constructor
        · intro hq
          exact ⟨q, hq, 0, Nat.zero_le _, rfl⟩
        · rintro ⟨p, hp, j, -, hj⟩
          clear ih
          induction j generalizing p with
          | zero => exact hj ▸ hp
          | succ j ihj =>
              obtain ⟨m, hr, hj⟩ := hj
              exact ihj m (hstep hp hr) hj
      · have hupTo : IsUpTo n (set ||| f set) := by
          intro m hm
          rcases has_or.mp hm with hm | hm
          · exact hs m hm
          · exact hf.isUpTo hR hs m hm
        rw [if_neg hstable]
        -- The next round starts from what is reached in no step or one.
        refine (ih hupTo).trans ?_
        simp only [hmore.has_iff hs]
        constructor
        · rintro ⟨m, ⟨p, hp, rfl | hr⟩, j, hj, hsteps⟩
          · exact ⟨p, hp, j, by omega, hsteps⟩
          · exact ⟨p, hp, j + 1, by omega, m, hr, hsteps⟩
        · rintro ⟨p, hp, j, hj, hsteps⟩
          cases j with
          | zero => exact ⟨p, ⟨p, hp, .inl rfl⟩, 0, Nat.zero_le _, hsteps⟩
          | succ j =>
              obtain ⟨m, hr, hsteps⟩ := hsteps
              exact ⟨m, ⟨p, hp, .inr hr⟩, j, by omega, hsteps⟩

theorem closure (hf : IsImage n R f) (hR : IsForward n R) :
    IsImage n (fun p q => ∃ j, Steps R j p q) (Positions.closure f (n + 1)) where
  has_iff hs q := by
    rw [hf.has_closure_iff hR hs]
    constructor
    · rintro ⟨p, hp, j, -, hj⟩
      exact ⟨p, hp, j, hj⟩
    · -- Forward steps need not be more than the positions, so the fuel is enough.
      rintro ⟨p, hp, j, hj⟩
      obtain ⟨-, hq, j, hle, hj⟩ := hR.exists_steps_le hj (hs p hp)
      exact ⟨p, hp, j, by omega, hj⟩

end IsImage

/-! ## Ends of matches -/

namespace Regex

/-- The bounds of every repetition are in order. -/
def IsOrdered : Regex → Prop
  | empty | set _ | look _ => True
  | seq r s | alt r s => r.IsOrdered ∧ s.IsOrdered
  | rep r least most => r.IsOrdered ∧ ∀ m ∈ most, least ≤ m

variable {text : Array Char}

theorem matches_empty_iff {p q : Nat} : Matches text .empty p q ↔ p = q := by
  constructor
  · rintro ⟨⟩
    rfl
  · rintro rfl
    exact .empty

theorem matches_set_iff {s : CharSet} {p q : Nat} :
    Matches text (.set s) p q ↔ q = p + 1 ∧ ∃ c, text[p]? = some c ∧ s.contains c = true := by
  constructor
  · rintro ⟨⟩
    exact ⟨rfl, _, ‹_›, ‹_›⟩
  · rintro ⟨rfl, c, hc, hs⟩
    exact .set hc hs

theorem matches_look_iff {l : Look} {p q : Nat} :
    Matches text (.look l) p q ↔ p = q ∧ l.holds text p = true := by
  constructor
  · rintro ⟨⟩
    exact ⟨rfl, ‹_›⟩
  · rintro ⟨rfl, h⟩
    exact .look h

theorem matches_seq_iff {r s : Regex} {p q : Nat} :
    Matches text (.seq r s) p q ↔ ∃ m, Matches text r p m ∧ Matches text s m q := by
  constructor
  · rintro ⟨⟩
    exact ⟨_, ‹_›, ‹_›⟩
  · rintro ⟨m, hr, hs⟩
    exact .seq hr hs

theorem matches_alt_iff {r s : Regex} {p q : Nat} :
    Matches text (.alt r s) p q ↔ Matches text r p q ∨ Matches text s p q := by
  constructor
  · rintro (_ | _)
    · exact .inl ‹_›
    · exact .inr ‹_›
  · rintro (h | h)
    · exact .altLeft h
    · exact .altRight h

/-- A repetition is a number of matches between its bounds. -/
theorem matches_rep_iff {r : Regex} {least : Nat} {most : Option Nat} {p q : Nat} :
    Matches text (.rep r least most) p q ↔
      ∃ k, least ≤ k ∧ (∀ m ∈ most, k ≤ m) ∧ Steps (Matches text r) k p q := by
  constructor
  · intro h
    -- By induction on the match: each time around both bounds go down by one.
    generalize he : Regex.rep r least most = x at h
    induction h generalizing least most with
    | done =>
        cases he
        exact ⟨0, Nat.le_refl 0, fun m _ => Nat.zero_le m, rfl⟩
    | again hm hr hs _ ih =>
        cases he
        obtain ⟨k, hleast, hmost, hk⟩ := ih rfl
        refine ⟨k + 1, by omega, fun m hm' => ?_, _, hr, hk⟩
        obtain rfl := Option.mem_def.mp hm'
        have hne : m ≠ 0 := fun h0 => hm (by rw [h0])
        have := hmost (m - 1) rfl
        omega
    | _ => cases he
  · rintro ⟨k, hleast, hmost, hk⟩
    induction k generalizing least most p with
    | zero =>
        obtain rfl : p = q := hk
        obtain rfl : least = 0 := by omega
        exact .done
    | succ k ih =>
        obtain ⟨m, hr, hk⟩ := hk
        refine .again ?_ hr (ih (by omega) ?_ hk)
        · rintro rfl
          have := hmost 0 rfl
          omega
        · intro x hx
          obtain ⟨y, hy, rfl⟩ := Option.map_eq_some_iff.mp hx
          have := hmost y hy
          omega

theorem isForward_matches (text : Array Char) (r : Regex) :
    IsForward text.size (Matches text r) := by
  intro p q h hp
  induction h with
  | empty => exact ⟨Nat.le_refl _, hp⟩
  | set hc _ =>
      obtain ⟨hlt, -⟩ := Array.getElem?_eq_some_iff.mp hc
      exact ⟨Nat.le_succ _, hlt⟩
  | look => exact ⟨Nat.le_refl _, hp⟩
  | seq _ _ ihr ihs =>
      obtain ⟨hpm, hm⟩ := ihr hp
      obtain ⟨hmq, hq⟩ := ihs hm
      exact ⟨Nat.le_trans hpm hmq, hq⟩
  | altLeft _ ih => exact ih hp
  | altRight _ ih => exact ih hp
  | done => exact ⟨Nat.le_refl _, hp⟩
  | again _ _ _ ihr ihs =>
      obtain ⟨hpm, hm⟩ := ihr hp
      obtain ⟨hmq, hq⟩ := ihs hm
      exact ⟨Nat.le_trans hpm hmq, hq⟩

theorem isImage_set (text : Array Char) (s : CharSet) :
    IsImage text.size (Matches text (.set s)) (ends text (.set s)) where
  has_iff _ q := by
    have hchar : ∀ p : Nat, (text[p]?.map s.contains).getD false = true ↔
        ∃ c, text[p]? = some c ∧ s.contains c = true := by
      intro p
      cases text[p]? <;> simp
    simp only [ends, has_shiftLeft_one, has_and, has_upTo, matches_set_iff, hchar]
    constructor
    · rintro ⟨p, ⟨hp, -, hc⟩, rfl⟩
      exact ⟨p, hp, rfl, hc⟩
    · rintro ⟨p, hp, rfl, c, hc, hs⟩
      obtain ⟨hlt, -⟩ := Array.getElem?_eq_some_iff.mp hc
      exact ⟨p, ⟨hp, Nat.le_of_lt hlt, c, hc, hs⟩, rfl⟩

theorem isImage_look (text : Array Char) (l : Look) :
    IsImage text.size (Matches text (.look l)) (ends text (.look l)) where
  has_iff hs q := by
    simp only [ends, has_and, has_upTo, matches_look_iff]
    constructor
    · rintro ⟨hq, -, hl⟩
      exact ⟨q, hq, rfl, hl⟩
    · rintro ⟨p, hp, rfl, hl⟩
      exact ⟨hp, hs p hp, hl⟩

/-- A repetition is its least number of matches and then any more, up to the bound. -/
theorem isImage_rep {r : Regex} (hr : IsImage text.size (Matches text r) (ends text r))
    {least : Nat} {most : Option Nat} (hb : ∀ m ∈ most, least ≤ m) :
    IsImage text.size (Matches text (.rep r least most)) (ends text (.rep r least most)) := by
  have hforward := isForward_matches text r
  have hleast : IsForward text.size (Steps (Matches text r) least) := by
    intro p q h hp
    obtain ⟨hpq, hq, -⟩ := hforward.exists_steps_le h hp
    exact ⟨hpq, hq⟩
  cases most with
  | none =>
      refine ((hr.iterate hforward least).comp hleast (hr.closure hforward)).congr fun p q => ?_
      rw [matches_rep_iff]
      constructor
      · rintro ⟨m, hm, j, hj⟩
        exact ⟨least + j, by omega, by simp, Steps.add_iff.mpr ⟨m, hm, hj⟩⟩
      · rintro ⟨k, hk, -, hs⟩
        obtain ⟨j, rfl⟩ := Nat.exists_eq_add_of_le hk
        obtain ⟨m, hm, hj⟩ := Steps.add_iff.mp hs
        exact ⟨m, hm, j, hj⟩
  | some most =>
      have hle : least ≤ most := hb most rfl
      -- Above the least number every time around may be left out.
      have hstay : IsForward text.size fun p q => p = q ∨ Matches text r p q := by
        rintro p q (rfl | h) hp
        · exact ⟨Nat.le_refl _, hp⟩
        · exact hforward h hp
      refine ((hr.iterate hforward least).comp hleast
        (((IsImage.id _).or hr).iterate hstay (most - least))).congr fun p q => ?_
      rw [matches_rep_iff]
      simp only [Steps.eq_or_iff]
      constructor
      · rintro ⟨m, hm, j, hj, hs⟩
        refine ⟨least + j, by omega, ?_, Steps.add_iff.mpr ⟨m, hm, hs⟩⟩
        rintro x ⟨⟩
        omega
      · rintro ⟨k, hk, hmost, hs⟩
        obtain ⟨j, rfl⟩ := Nat.exists_eq_add_of_le hk
        obtain ⟨m, hm, hj⟩ := Steps.add_iff.mp hs
        have := hmost most rfl
        exact ⟨m, hm, j, by omega, hj⟩

/-- The ends that the search finds are those of the spans that are matched. -/
theorem isImage_ends {r : Regex} (h : r.IsOrdered) (text : Array Char) :
    IsImage text.size (Matches text r) (ends text r) := by
  induction r with
  | empty => exact (IsImage.id _).congr fun p q => matches_empty_iff.symm
  | set s => exact isImage_set text s
  | look l => exact isImage_look text l
  | seq r s ihr ihs =>
      exact ((ihr h.1).comp (isForward_matches text r) (ihs h.2)).congr
        fun p q => matches_seq_iff.symm
  | alt r s ihr ihs => exact ((ihr h.1).or (ihs h.2)).congr fun p q => matches_alt_iff.symm
  | rep r least most ih => exact isImage_rep (ih h.1) h.2

/-- There is a match exactly if some span of the text is matched. -/
theorem isMatch_iff {r : Regex} (h : r.IsOrdered) (text : String) :
    r.isMatch text = true ↔
      ∃ p ≤ text.toList.length, ∃ q, Matches text.toList.toArray r p q := by
  have hall : IsUpTo text.toList.toArray.size (Positions.all text.toList.toArray.size) := by
    intro p hp
    exact has_all.mp hp
  have himage := (isImage_ends h text.toList.toArray).has_iff hall
  rw [isMatch, bne_iff_ne, ← exists_has_iff]
  constructor
  · rintro ⟨q, hq⟩
    obtain ⟨p, hp, hm⟩ := (himage q).mp hq
    exact ⟨p, by simpa using has_all.mp hp, q, hm⟩
  · rintro ⟨p, hp, q, hm⟩
    exact ⟨q, (himage q).mpr ⟨p, has_all.mpr (by simpa using hp), hm⟩⟩

end Regex

end Pattern

end StylePrune
