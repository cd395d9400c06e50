import StylePrune.Pattern.Parser

/-!
# Reading patterns that are put together

A pattern that is put together from parts is read part by part: a part adds its pieces to the
group that is open, whatever stands before it and after it.
-/

namespace StylePrune

namespace Pattern

/-! ## Pieces -/

namespace Piece

def AllWithin (depth : Nat) (ps : List Piece) : Prop :=
  ∀ p ∈ ps, p.depth ≤ depth

theorem foldl_max_le {ds : List Nat} {a depth : Nat} (ha : a ≤ depth)
    (h : ∀ d ∈ ds, d ≤ depth) : ds.foldl max a ≤ depth := by
  induction ds generalizing a with
  | nil => exact ha
  | cons d rest ih =>
      refine ih ?_ fun x hx => h x (List.mem_cons_of_mem d hx)
      exact Nat.max_le.mpr ⟨ha, h d List.mem_cons_self⟩

theorem AllWithin.deepest_le {depth : Nat} {ps : List Piece} (h : AllWithin depth ps) :
    deepest ps ≤ depth := by
  refine foldl_max_le (Nat.zero_le depth) fun d hd => ?_
  obtain ⟨p, hp, rfl⟩ := List.mem_map.mp hd
  exact h p hp

theorem depthBeside_le {count deepest depth : Nat} (h : deepest ≤ depth) :
    depthBeside count deepest ≤ depth + 1 := by
  unfold depthBeside
  split <;> omega

/-- Without flags between them, the pieces are all there is. -/
theorem concat_map_some (ps : List Piece) :
    concat (ps.map some) =
      ⟨Regex.seqAll (ps.map Piece.regex), depthBeside ps.length (deepest ps)⟩ := by
  simp [concat]

theorem depth_concat_le {depth : Nat} {ps : List Piece} (h : AllWithin depth ps) :
    (concat (ps.map some)).depth ≤ depth + 1 := by
  rw [concat_map_some]
  exact depthBeside_le h.deepest_le

theorem depth_choice_le {depth : Nat} {ps : List Piece} (h : AllWithin depth ps) :
    (choice ps).depth ≤ depth + 1 :=
  depthBeside_le h.deepest_le

end Piece

/-! ## Parts of a pattern -/

/-- The pieces come to the current alternative. -/
def OpenGroup.addAll (g : OpenGroup) (ps : List Piece) : OpenGroup :=
  { g with current := (ps.map some).reverse ++ g.current }

def State.addAll (st : State) (ps : List Piece) : State :=
  { st with group := st.group.addAll ps }

theorem State.addAll_append (st : State) (ps qs : List Piece) :
    st.addAll (ps ++ qs) = (st.addAll ps).addAll qs := by
  simp [State.addAll, OpenGroup.addAll]

/-- The text does not start with a question mark, which would make a repetition lazy. -/
def KeepsGreed (s : List Char) : Prop :=
  s.head? ≠ some '?'

theorem KeepsGreed.append {u v : List Char} (hu : KeepsGreed u) (hv : KeepsGreed v) :
    KeepsGreed (u ++ v) := by
  cases u with
  | nil => exact hv
  | cons c rest => exact hu

theorem KeepsGreed.dropLazy_eq {s : List Char} (h : KeepsGreed s) : dropLazy s = s := by
  unfold dropLazy
  split
  · exact absurd rfl h
  · rfl

/-- Reading `w` leads from one state to the other, whatever comes next. -/
structure Leads (st : State) (w : List Char) (st' : State) : Prop where
  keepsGreed : KeepsGreed w
  run?_eq : ∃ k ≤ w.length, ∀ fuel rest, KeepsGreed rest →
    st.run? (fuel + k) (w ++ rest) = st'.run? fuel rest

theorem State.run?_of_step? {st st' : State} (hf : st.flags = .initial) {c : Char}
    {s rest : List Char} (h : st.step? (c :: s) = some (st', rest)) (fuel : Nat) :
    st.run? (fuel + 1) (c :: s) = st'.run? fuel rest := by
  simp [State.run?, hf, Flags.skip, Flags.initial, h]

namespace Leads

variable {st st' st'' : State} {u v : List Char}

theorem refl (st : State) : Leads st [] st where
  keepsGreed := nofun
  run?_eq := ⟨0, Nat.le_refl 0, fun _ _ _ => rfl⟩

theorem trans (h : Leads st u st') (h' : Leads st' v st'') : Leads st (u ++ v) st'' where
  keepsGreed := h.keepsGreed.append h'.keepsGreed
  run?_eq := by
    obtain ⟨j, hj, hu⟩ := h.run?_eq
    obtain ⟨k, hk, hv⟩ := h'.run?_eq
    refine ⟨k + j, by rw [List.length_append]; omega, fun fuel rest hrest => ?_⟩
    rw [List.append_assoc, ← Nat.add_assoc, hu _ _ (h'.keepsGreed.append hrest), hv _ _ hrest]

theorem of_step {c : Char} {w : List Char} (hf : st.flags = .initial) (hc : c ≠ '?')
    (h : ∀ rest, KeepsGreed rest → st.step? (c :: w ++ rest) = some (st', rest)) :
    Leads st (c :: w) st' where
  keepsGreed := by simpa [KeepsGreed] using hc
  run?_eq := ⟨1, by simp, fun fuel rest hrest => State.run?_of_step? hf (h rest hrest) fuel⟩

end Leads

/--
Wherever the flags are those at the start of a pattern, the text is read as pieces for the
given expressions, nested no deeper than `depth`.
-/
def Reads (w : List Char) (rs : List Regex) (depth : Nat) : Prop :=
  ∃ ps : List Piece, ps.map Piece.regex = rs ∧ Piece.AllWithin depth ps ∧
    ∀ st : State, st.flags = .initial → Leads st w (st.addAll ps)

namespace Reads

variable {u v : List Char} {rs ss : List Regex} {d depth : Nat}

theorem nil : Reads [] [] depth :=
  ⟨[], rfl, nofun, fun st _ => Leads.refl st⟩

theorem mono (h : Reads u rs d) (hd : d ≤ depth) : Reads u rs depth := by
  obtain ⟨ps, hps, hwithin, hleads⟩ := h
  exact ⟨ps, hps, fun p hp => Nat.le_trans (hwithin p hp) hd, hleads⟩

theorem append (hu : Reads u rs depth) (hv : Reads v ss depth) :
    Reads (u ++ v) (rs ++ ss) depth := by
  obtain ⟨ps, rfl, hps, hleads⟩ := hu
  obtain ⟨qs, rfl, hqs, hleads'⟩ := hv
  refine ⟨ps ++ qs, List.map_append, ?_, fun st hf => ?_⟩
  · intro p hp
    exact (List.mem_append.mp hp).elim (hps p) (hqs p)
  · rw [State.addAll_append]
    exact (hleads st hf).trans (hleads' _ hf)

theorem flatMap {α : Type} {f : α → List Char} {g : α → List Regex} {xs : List α}
    (h : ∀ x ∈ xs, Reads (f x) (g x) depth) : Reads (xs.flatMap f) (xs.flatMap g) depth := by
  induction xs with
  | nil => exact nil
  | cons x rest ih =>
      exact (h x List.mem_cons_self).append (ih fun y hy => h y (List.mem_cons_of_mem x hy))

/-- An element of a pattern that makes one piece. -/
theorem of_step {c : Char} {w : List Char} {r : Regex} (hc : c ≠ '?')
    (h : ∀ (st : State) (rest : List Char), st.flags = .initial → KeepsGreed rest →
      st.step? (c :: w ++ rest) = some (st.add r depth, rest)) :
    Reads (c :: w) [r] depth :=
  ⟨[⟨r, depth⟩], rfl, by simp [Piece.AllWithin],
    fun st hf => Leads.of_step hf hc fun rest hrest => h st rest hf hrest⟩

/-- An element of a pattern with a repetition after it. -/
theorem of_step_repeated {c q : Char} {w v : List Char} {r : Regex} {least : Nat}
    {most : Option Nat} (hc : c ≠ '?')
    (h : ∀ (st : State) (rest : List Char), st.flags = .initial →
      st.step? (c :: w ++ rest) = some (st.add r depth, rest))
    (hq : ∀ (st : State) (rest : List Char),
      st.step? (q :: rest) = State.step?.quantify st (some ((least, most), rest)))
    (hlazy : ∀ rest, KeepsGreed rest → dropLazy (v ++ rest) = rest) :
    Reads (c :: w ++ q :: v) [.rep r least most] (depth + 1) := by
  refine ⟨[⟨.rep r least most, depth + 1⟩], rfl, by simp [Piece.AllWithin], fun st hf => ?_⟩
  have hlength : 2 ≤ (c :: w ++ q :: v).length := by
    simp only [List.length_append, List.length_cons]
    omega
  -- One step reads the element, and one the repetition of what was read.
  refine ⟨by simpa [KeepsGreed] using hc, 2, hlength, fun fuel rest hrest => ?_⟩
  have hrep : (st.add r depth).step? (q :: (v ++ rest)) =
      some (st.addAll [⟨.rep r least most, depth + 1⟩], rest) := by
    rw [hq]
    simp [State.step?.quantify, OpenGroup.repeatLast?, State.add, OpenGroup.add, State.addAll,
      OpenGroup.addAll, hlazy rest hrest]
  have hf' : (st.add r depth).flags = .initial := hf
  rw [List.append_assoc]
  exact (State.run?_of_step? hf (h st _ hf) (fuel + 1)).trans
    (State.run?_of_step? hf' hrep fuel)

end Reads

/-! ## Escaped text -/

theorem State.step?_of_not_isMeta {st : State} (hf : st.flags = .initial) {c : Char}
    (hc : isMeta c = false) (rest : List Char) :
    st.step? (c :: rest) = some (st.add (.set (.single c)) 0, rest) := by
  have hne : ∀ x : Char, isMeta x = true → c ≠ x := by
    rintro x hx rfl
    exact Bool.false_ne_true (hc.symm.trans hx)
  have hread : st.addChar? c = some (st.add (.set (.single c)) 0) := by
    simp [State.addChar?, hf, Flags.initial, CharSet.foldIf]
  unfold State.step?
  split
  case h_1 heq => exact absurd heq (List.cons_ne_nil _ _)
  case h_14 heq =>
    obtain ⟨rfl, rfl⟩ := List.cons.inj heq
    rw [hread]
    rfl
  -- In the other cases the character is one with a meaning.
  all_goals
    next heq => exact absurd (List.cons.inj heq).1 (hne _ (by decide))

theorem readEscape?_of_isMeta (flags : Flags) {c : Char} (hc : isMeta c = true)
    (rest : List Char) : readEscape? flags (c :: rest) = some (.char c, rest) := by
  have hchars : "\\.+*?()|[]\x7b\x7d^$#&-~".toList =
      ['\\', '.', '+', '*', '?', '(', ')', '|', '[', ']', '\x7b', '\x7d', '^', '$', '#', '&',
        '-', '~'] := by
    decide
  rw [isMeta, hchars] at hc
  simp only [List.contains_iff_mem, List.mem_cons, List.not_mem_nil, or_false] at hc
  rcases hc with rfl | rfl | rfl | rfl | rfl | rfl | rfl | rfl | rfl | rfl | rfl | rfl | rfl |
    rfl | rfl | rfl | rfl | rfl
  all_goals rfl

/-- Escaped text is read as the text. -/
theorem reads_escapeText (s : List Char) :
    Reads (escapeText s) (s.map fun c => .set (.single c)) 0 := by
  rw [escapeText, List.map_eq_flatMap]
  refine Reads.flatMap fun c _ => ?_
  by_cases hc : isMeta c = true
  · rw [if_pos hc]
    refine Reads.of_step (by decide) fun st rest hf _ => ?_
    have hread : st.step? ('\\' :: c :: rest) =
        (st.addChar? c).bind fun st => some (st, rest) := by
      simp [State.step?, readEscape?_of_isMeta st.flags hc]
    rw [List.cons_append, List.singleton_append, hread]
    simp [State.addChar?, hf, Flags.initial, CharSet.foldIf]
  · have hc' : isMeta c = false := Bool.eq_false_iff.mpr hc
    rw [if_neg hc]
    refine Reads.of_step ?_ fun st rest hf _ => State.step?_of_not_isMeta hf hc' rest
    rintro rfl
    exact hc (by decide)

/-! ## Alternatives -/

/--
The text is read as alternatives for the given expressions, in a group of which nothing of
the current alternative is read yet.
-/
def ReadsAlternatives (w : List Char) (rs : List Regex) (depth : Nat) : Prop :=
  ∃ ps : List Piece, ps.map Piece.regex = rs ∧ Piece.AllWithin depth ps ∧
    ∀ st : State, st.flags = .initial → st.group.current = [] →
      ∃ g : OpenGroup, g.outerFlags = st.group.outerFlags ∧
        (g.alternative :: g.before).reverse = st.group.before.reverse ++ ps ∧
        Leads st w { st with group := g }

theorem OpenGroup.alternative_addAll {g : OpenGroup} (h : g.current = []) (ps : List Piece) :
    (g.addAll ps).alternative = Piece.concat (ps.map some) := by
  simp [OpenGroup.alternative, OpenGroup.addAll, h]

theorem leads_bar (st : State) (hf : st.flags = .initial) :
    Leads st ['|'] { st with group := st.group.nextAlternative } :=
  Leads.of_step hf (by decide) fun _ _ => rfl

namespace ReadsAlternatives

variable {u v : List Char} {rs ss : List Regex} {d depth : Nat}

theorem mono (h : ReadsAlternatives u rs d) (hd : d ≤ depth) : ReadsAlternatives u rs depth := by
  obtain ⟨ps, hps, hwithin, hleads⟩ := h
  exact ⟨ps, hps, fun p hp => Nat.le_trans (hwithin p hp) hd, hleads⟩

theorem single (h : Reads u rs depth) :
    ReadsAlternatives u [Regex.seqAll rs] (depth + 1) := by
  obtain ⟨ps, rfl, hps, hleads⟩ := h
  refine ⟨[Piece.concat (ps.map some)], by simp [Piece.concat_map_some], ?_, fun st hf hc => ?_⟩
  · intro p hp
    obtain rfl := List.mem_singleton.mp hp
    exact Piece.depth_concat_le hps
  · refine ⟨st.group.addAll ps, rfl, ?_, hleads st hf⟩
    rw [OpenGroup.alternative_addAll hc]
    simp [OpenGroup.addAll]

theorem cons (h : Reads u rs depth) (h' : ReadsAlternatives v ss (depth + 1)) :
    ReadsAlternatives (u ++ '|' :: v) (Regex.seqAll rs :: ss) (depth + 1) := by
  obtain ⟨ps, rfl, hps, hleads⟩ := h
  obtain ⟨qs, rfl, hqs, hmore⟩ := h'
  refine ⟨Piece.concat (ps.map some) :: qs, by simp [Piece.concat_map_some], ?_, fun st hf hc => ?_⟩
  · intro p hp
    rcases List.mem_cons.mp hp with rfl | hp
    · exact Piece.depth_concat_le hps
    · exact hqs p hp
  · have hbar := (hleads st hf).trans (leads_bar (st.addAll ps) hf)
    have hfirst : (st.addAll ps).group.nextAlternative.before =
        Piece.concat (ps.map some) :: st.group.before := by
      rw [← OpenGroup.alternative_addAll hc]
      rfl
    obtain ⟨g, houter, hall, hg⟩ :=
      hmore { st.addAll ps with group := (st.addAll ps).group.nextAlternative } hf rfl
    refine ⟨g, houter, ?_, ?_⟩
    · rw [hall, hfirst]
      simp
    · have hboth := hbar.trans hg
      rw [List.append_assoc] at hboth
      exact hboth

/-- Texts with bars between them are alternatives. -/
theorem intercalate {α : Type} {f : α → List Char} {g : α → List Regex} {xs : List α}
    (hne : xs ≠ []) (h : ∀ x ∈ xs, Reads (f x) (g x) depth) :
    ReadsAlternatives (['|'].intercalate (xs.map f)) (xs.map fun x => Regex.seqAll (g x))
      (depth + 1) := by
  induction xs with
  | nil => exact absurd rfl hne
  | cons x rest ih =>
      have hx := h x List.mem_cons_self
      cases rest with
      | nil => simpa [List.intercalate] using single hx
      | cons y rest =>
          have hrest := ih (by simp) fun z hz => h z (List.mem_cons_of_mem x hz)
          simpa [List.intercalate] using cons hx hrest

/-- A group without a number makes one piece of its alternatives. -/
theorem group (h : ReadsAlternatives u rs depth) :
    Reads (['(', '?', ':'] ++ u ++ [')']) [Regex.altAll rs] (depth + 2) := by
  obtain ⟨ps, rfl, hps, hleads⟩ := h
  have hdepth := Piece.depth_choice_le hps
  refine ⟨[⟨Regex.altAll (ps.map Piece.regex), (Piece.choice ps).depth + 1⟩], rfl, ?_,
    fun st hf => ?_⟩
  · intro p hp
    obtain rfl := List.mem_singleton.mp hp
    simp only
    omega
  · -- The group is opened, its alternatives are read, and it is closed as one piece.
    have hopen : Leads st ['(', '?', ':'] (st.openGroup .initial) := by
      refine Leads.of_step hf (by decide) fun rest _ => ?_
      simp [State.step?, State.readGroup?, hf, Flags.skip, Flags.initial, readFlags?]
    obtain ⟨g, houter, hall, hg⟩ := hleads (st.openGroup .initial) rfl rfl
    have hclose : Leads { st.openGroup .initial with group := g } [')']
        (st.addAll [⟨Regex.altAll (ps.map Piece.regex), (Piece.choice ps).depth + 1⟩]) := by
      refine Leads.of_step rfl (by decide) fun rest _ => ?_
      have hpiece : g.piece = Piece.choice ps := by
        rw [OpenGroup.piece, hall]
        rfl
      have hflags : g.outerFlags = st.flags := houter
      simp [State.step?, State.closeGroup?, State.openGroup, hpiece, hflags,
        Piece.choice, State.addAll, OpenGroup.addAll, OpenGroup.add]
    exact (hopen.trans hg).trans hclose

/-- A whole pattern is read as its alternatives. -/
theorem parse?_eq (h : ReadsAlternatives u rs depth) (hdepth : depth < nestLimit) :
    parse? (String.ofList u) = some (Regex.altAll rs) := by
  obtain ⟨ps, rfl, hps, hleads⟩ := h
  obtain ⟨g, -, hall, hg⟩ := hleads .initial rfl rfl
  obtain ⟨k, hk, hrun⟩ := hg.run?_eq
  have hpiece : g.piece = Piece.choice ps := by
    rw [OpenGroup.piece, hall]
    rfl
  have hle : (Piece.choice ps).depth ≤ nestLimit :=
    Nat.le_trans (Piece.depth_choice_le hps) hdepth
  -- Reading takes no more steps than there are characters, and the fuel is one more.
  have hend : State.initial.run? (u.length + 1) u = some { State.initial with group := g } := by
    obtain ⟨fuel, hfuel⟩ : ∃ fuel, u.length + 1 = fuel + 1 + k := ⟨u.length - k, by omega⟩
    have := hrun (fuel + 1) [] nofun
    rw [List.append_nil, ← hfuel] at this
    rw [this]
    rfl
  have houter : State.initial.outer = [] := rfl
  simp only [parse?, String.toList_ofList, hend, houter, hpiece, hle, Option.bind_eq_bind,
    Option.bind_some, List.isEmpty_nil, if_true]
  rfl

end ReadsAlternatives

end Pattern

end StylePrune
