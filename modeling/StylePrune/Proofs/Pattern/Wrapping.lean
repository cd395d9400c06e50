import Mathlib.Logic.Relation
import StylePrune.Proofs.Pattern.Progress
import StylePrune.Proofs.Pattern.Reading

/-!
# A pattern inside a group

A pattern in front of a closing parenthesis, with one more group around it, is read like the
pattern alone.  There are two exceptions.  A comment at the end of the pattern takes the
parenthesis, and a parenthesis too many in the pattern closes the group around it.
-/

namespace StylePrune

namespace Pattern

open Text

variable {flags : Flags}

/-! ## Elements in front of a parenthesis -/

theorem isLocal_namedStart? (flags : Flags) : IsLocal (namedStart? flags) := by
  intro s
  fun_cases namedStart? flags s with
  | case1 hs =>
      rw [namedStart?, dropWhile_append_of_eq_nil (by decide) hs]
      rfl
  | case2 c after hafter hname =>
      rw [namedStart?, dropWhile_append_of_eq_cons hafter, takeWhile_append_of_eq_cons hafter]
      exact if_pos hname
  | case3 c after hafter hname =>
      rw [namedStart?, dropWhile_append_of_eq_cons hafter, takeWhile_append_of_eq_cons hafter]
      exact if_neg hname

/--
The start of a group is the same in front of the parenthesis, or the parenthesis ends the
letters of flags that the text ends with.
-/
def IsLocalOrEndsFlags (start : List Char → Option (Element × List Char)) (s : List Char) : Prop :=
  start (s ++ [')']) = (start s).map keepClose ∨
    ∃ set, start (s ++ [')']) = some (.sets set, []) ∧ start s = none

/-- Letters of flags end in a colon or a parenthesis, or with the text. -/
theorem dropWhile_endsFlags_eq_nil {s : List Char}
    (hcolon : ∀ after, (s.dropWhile fun c => !endsFlags c) = ':' :: after → False)
    (hclose : ∀ after, (s.dropWhile fun c => !endsFlags c) = ')' :: after → False) :
    (s.dropWhile fun c => !endsFlags c) = [] := by
  cases hrest : s.dropWhile fun c => !endsFlags c with
  | nil => rfl
  | cons c after =>
      have hends : endsFlags c = true := by
        have hne : (s.dropWhile fun c => !endsFlags c) ≠ [] := by simp [hrest]
        simpa [hrest] using List.head_dropWhile_not _ hne
      rcases Bool.or_eq_true_iff.mp hends with hc | hc
      · exact (hcolon after (beq_iff_eq.mp hc ▸ hrest)).elim
      · exact (hclose after (beq_iff_eq.mp hc ▸ hrest)).elim

/-- Letters alone end in front of the parenthesis. -/
theorem isLocalOrEndsFlags_of_letters {s : List Char}
    (hnil : (s.dropWhile fun c => !endsFlags c) = []) :
    IsLocalOrEndsFlags (flaggedStart? flags) s := by
  have hrest : ((s ++ [')']).dropWhile fun c => !endsFlags c) = [')'] := by
    rw [dropWhile_append_close (by decide), hnil]
    rfl
  have hnone : flaggedStart? flags s = none := by rw [flaggedStart?, hnil]
  unfold IsLocalOrEndsFlags
  rw [hnone, flaggedStart?_of_close hrest]
  split
  · exact .inl rfl
  · cases readFlags? flags true [] ((s ++ [')']).takeWhile fun c => !endsFlags c) with
    | none => exact .inl rfl
    | some set => exact .inr ⟨set, rfl, rfl⟩

theorem isLocalOrEndsFlags_flaggedStart? (flags : Flags) (s : List Char) :
    IsLocalOrEndsFlags (flaggedStart? flags) s := by
  have hmore {c : Char} {after : List Char}
      (hafter : (s.dropWhile fun c => !endsFlags c) = c :: after) :
      ((s ++ [')']).takeWhile fun c => !endsFlags c) = (s.takeWhile fun c => !endsFlags c) ∧
        ((s ++ [')']).dropWhile fun c => !endsFlags c) = c :: (after ++ [')']) :=
    ⟨takeWhile_append_of_eq_cons hafter _, dropWhile_append_of_eq_cons hafter _⟩
  fun_cases flaggedStart? flags s with
  | case1 after hafter =>
      obtain ⟨hletters, hrest⟩ := hmore hafter
      refine .inl ?_
      rw [flaggedStart?_of_colon hafter, flaggedStart?_of_colon hrest, hletters, Option.map_map]
      rfl
  | case2 after hafter hempty =>
      obtain ⟨hletters, hrest⟩ := hmore hafter
      refine .inl ?_
      rw [flaggedStart?_of_close hafter, flaggedStart?_of_close hrest, hletters, if_pos hempty,
        if_pos hempty]
      rfl
  | case3 after hafter hempty =>
      obtain ⟨hletters, hrest⟩ := hmore hafter
      refine .inl ?_
      rw [flaggedStart?_of_close hafter, flaggedStart?_of_close hrest, hletters, if_neg hempty,
        if_neg hempty, Option.map_map]
      rfl
  | case4 hcolon hclose =>
      exact isLocalOrEndsFlags_of_letters (dropWhile_endsFlags_eq_nil hcolon hclose)

theorem isLocalOrEndsFlags_groupStart? (flags : Flags) (s : List Char) :
    IsLocalOrEndsFlags (groupStart? flags) s := by
  fun_cases groupStart? flags s with
  | case1 | case2 | case3 | case4 => exact .inl rfl
  | case5 rest => exact .inl (isLocal_namedStart? flags rest)
  | case6 rest h1 h2 =>
      refine .inl ?_
      rw [groupStart?.eq_6 _ _ h1 h2]
      have hclose := Closed.append rest
      have hstart :=
        groupStart?.eq_6 flags _ (hclose.ne_cons (by decide) h1) (hclose.ne_cons (by decide) h2)
      exact hstart.trans (isLocal_namedStart? flags rest)
  | case7 rest h1 h2 h3 h4 h5 h6 =>
      have hclose := Closed.append rest
      have hname := hclose.ne_cons_cons (by decide) (by decide) h5
      have hangle := hclose.ne_cons (by decide) h6
      have hlonger := groupStart?.eq_7 flags _ (hclose.ne_cons (by decide) h1)
        (hclose.ne_cons (by decide) h2) (fun v => hangle _) (fun v => hangle _) hname hangle
      have halone := groupStart?.eq_7 flags rest h1 h2 h3 h4 h5 h6
      have hflags := isLocalOrEndsFlags_flaggedStart? flags rest
      unfold IsLocalOrEndsFlags at hflags ⊢
      rw [← hlonger, ← halone] at hflags
      exact hflags
  | case8 s h1 h2 h3 h4 h5 h6 h7 =>
      have hmark := (Closed.append s).ne_cons (by decide) h7
      refine .inl ?_
      rw [groupStart?.eq_8 _ _ h1 h2 h3 h4 h5 h6 h7,
        groupStart?.eq_8 _ _ (fun v => hmark _) (fun v => hmark _) (fun v => hmark _)
          (fun v => hmark _) (fun v => hmark _) (fun v => hmark _) hmark]
      rfl

/--
In front of the parenthesis an element is read that takes it and all else, where the text
alone is no element, or one that opens a group without taking the parenthesis.
-/
structure TakesClose (flags : Flags) (s : List Char) (e : Element) : Prop where
  element?_eq : element? flags (s ++ [')']) = some (e, [])
  ne_closes : e ≠ .closes
  alone : element? flags s = none ∨
    element? flags s = some (e, []) ∧ ∃ inner name, e = .opens inner name

theorem charElement?_close (flags : Flags) :
    charElement? flags ')' =
      some (.piece (.set (.foldIf flags.ignoreCase (.single ')'))) 0) := by
  refine if_neg ?_
  simp [show isAscii ')' = true from rfl]

/-- A comment behind an opening parenthesis takes the one behind the text, and the group is open. -/
theorem element?_opening_append (flags : Flags) (rest : List Char) :
    element? flags ('(' :: rest ++ [')']) = (element? flags ('(' :: rest)).map keepClose ∨
      ∃ e, TakesClose flags ('(' :: rest) e := by
  rcases closed_skip flags rest with hskip | ⟨hnil, hskip⟩
  · have hlonger : element? flags ('(' :: rest ++ [')']) =
        groupStart? flags (flags.skip rest ++ [')']) := by
      rw [← hskip]
      rfl
    rw [hlonger]
    rcases isLocalOrEndsFlags_groupStart? flags (flags.skip rest) with h | ⟨set, h, halone⟩
    · exact .inl h
    · exact .inr ⟨.sets set, hlonger.trans h, by simp, .inl halone⟩
  · refine .inr ⟨.opens flags none, ?_, by simp, .inr ⟨?_, flags, none, rfl⟩⟩
    · change groupStart? flags (flags.skip (rest ++ [')'])) = _
      rw [hskip]
      rfl
    · change groupStart? flags (flags.skip rest) = _
      rw [hnil]
      rfl

/-- A backslash at the end takes the parenthesis. -/
theorem element?_backslash_append (flags : Flags) (rest : List Char) :
    element? flags ('\\' :: rest ++ [')']) = (element? flags ('\\' :: rest)).map keepClose ∨
      ∃ e, TakesClose flags ('\\' :: rest) e := by
  by_cases hrest : rest = []
  · subst hrest
    refine .inr ⟨.piece (.set (.foldIf flags.ignoreCase (.single ')'))) 0, ?_, by simp, .inl rfl⟩
    change (charElement? flags ')').map _ = _
    rw [charElement?_close]
    rfl
  · refine .inl ?_
    change (readEscape? flags (rest ++ [')'])).bind _ = ((readEscape? flags rest).bind _).map _
    rw [readEscape?_append flags hrest]
    cases readEscape? flags rest with
    | none => rfl
    | some r =>
        change (escapeElement? flags r.1).map _ = ((escapeElement? flags r.1).map _).map _
        rw [Option.map_map]
        rfl

theorem element?_append (flags : Flags) {s : List Char} (hs : s ≠ []) :
    element? flags (s ++ [')']) = (element? flags s).map keepClose ∨
      ∃ e, TakesClose flags s e := by
  fun_cases element? flags s with
  | case1 => exact absurd rfl hs
  | case2 rest => exact element?_opening_append flags rest
  | case3 | case4 | case12 | case13 => exact .inl rfl
  | case5 rest =>
      refine .inl ?_
      change (bracketSet? flags (rest ++ [')'])).map _ = _
      rw [isLocal_bracketSet? flags rest, Option.map_map, Option.map_map]
      rfl
  | case6 rest | case7 rest | case8 rest =>
      refine .inl ?_
      rw [Option.map_some, keepClose, ← dropLazy_append]
      rfl
  | case9 rest =>
      refine .inl ?_
      change (counts? flags (rest ++ [')'])).map _ = _
      rw [isLocal_counts? flags rest, Option.map_map, Option.map_map]
      cases counts? flags rest with
      | none => rfl
      | some r =>
          dsimp only [Option.map_some, Function.comp_apply, keepClose]
          rw [dropLazy_append]
  | case10 rest => exact element?_backslash_append flags rest
  | case11 rest =>
      refine .inl ?_
      change (State.dot? flags).map _ = _
      rw [Option.map_map]
      rfl
  | case14 c rest h1 h2 h3 h4 h5 h6 h7 h8 h9 h10 h11 h12 =>
      refine .inl ?_
      rw [List.cons_append, element?.eq_14 _ _ _ h1 h2 h3 h4 h5 h6 h7 h8 h9 h10 h11 h12,
        Option.map_map]
      rfl

theorem ne_closes_of_groupStart? {s rest : List Char} {e : Element}
    (h : groupStart? flags s = some (e, rest)) : e ≠ .closes := by
  have hnamed : ∀ {s}, namedStart? flags s = some (e, rest) → e ≠ .closes := by
    intro s
    fun_cases namedStart? flags s with
    | case1 | case3 => simp
    | case2 =>
        rintro ⟨⟩ ⟨⟩
  have hflagged : ∀ {s}, flaggedStart? flags s = some (e, rest) → e ≠ .closes := by
    intro s
    fun_cases flaggedStart? flags s with
    | case1 | case3 =>
        intro h
        obtain ⟨_, -, hr⟩ := Option.map_eq_some_iff.mp h
        cases hr
        rintro ⟨⟩
    | case2 | case4 => simp
  revert h
  fun_cases groupStart? flags s with
  | case1 | case2 | case3 | case4 => simp
  | case5 | case6 => exact hnamed
  | case7 => exact hflagged
  | case8 =>
      rintro ⟨⟩ ⟨⟩

theorem ne_closes_of_charElement? {c : Char} {e : Element} (h : charElement? flags c = some e) :
    e ≠ .closes := by
  unfold charElement? at h
  split at h
  · cases h
  · cases h
    nofun

theorem ne_closes_of_escapeElement? {escape : Escape} {e : Element}
    (h : escapeElement? flags escape = some e) : e ≠ .closes := by
  cases escape with
  | char c => exact ne_closes_of_charElement? h
  | set | look =>
      cases h
      nofun

/-- Only a parenthesis closes a group. -/
theorem head?_of_element?_eq_closes {s rest : List Char}
    (h : element? flags s = some (.closes, rest)) : s.head? = some ')' := by
  revert h
  fun_cases element? flags s with
  | case1 | case4 | case6 | case7 | case8 | case12 | case13 => simp
  | case2 rest => exact fun h => absurd rfl (ne_closes_of_groupStart? h)
  | case3 => exact fun _ => rfl
  | case5 | case9 | case11 =>
      intro h
      obtain ⟨_, -, hr⟩ := Option.map_eq_some_iff.mp h
      cases hr
  | case10 =>
      intro h
      obtain ⟨_, -, h⟩ := Option.bind_eq_some_iff.mp h
      obtain ⟨e, he, hr⟩ := Option.map_eq_some_iff.mp h
      cases hr
      exact absurd rfl (ne_closes_of_escapeElement? he)
  | case14 =>
      intro h
      obtain ⟨e, he, hr⟩ := Option.map_eq_some_iff.mp h
      cases hr
      exact absurd rfl (ne_closes_of_charElement? he)

theorem run?_cons {st : State} {s : List Char} (h : st.flags.skip s ≠ []) (fuel : Nat) :
    st.run? (fuel + 1) s =
      (st.step? (st.flags.skip s)).bind fun r => r.1.run? fuel r.2 := by
  rw [State.run?]
  split
  · rename_i hnil
    exact absurd hnil h
  · rfl

theorem run?_of_skip_eq_nil (st : State) {s : List Char} (h : st.flags.skip s = [])
    (fuel : Nat) :
    st.run? (fuel + 1) s = some st := by
  rw [State.run?, h]

/-! ## One more group around -/

namespace State

/-- The state with one more group around all that are open. -/
def within (st : State) (g : OpenGroup) : State :=
  { st with outer := st.outer ++ [g] }

theorem outer_within_ne_nil (st : State) (g : OpenGroup) : (st.within g).outer ≠ [] :=
  List.append_ne_nil_of_right_ne_nil _ (List.cons_ne_nil g [])

theorem after?_within (g : OpenGroup) {st : State} {e : Element}
    (h : e = .closes → st.outer ≠ []) :
    (st.within g).after? e = (st.after? e).map fun st' => st'.within g := by
  cases e with
  | opens inner name =>
      cases name with
      | none => rfl
      | some name =>
          change (if st.names.contains name then none else some _) =
            (if st.names.contains name then none else some _ : Option State).map _
          split <;> rfl
  | sets | bar | piece => rfl
  | closes =>
      obtain ⟨flags, group, outer, names⟩ := st
      cases outer with
      | nil => exact absurd rfl (h rfl)
      | cons parent outer => rfl
  | repeats least most =>
      change (st.group.repeatLast? least most).map _ =
        ((st.group.repeatLast? least most).map _).map _
      rw [Option.map_map]
      rfl

/-- The piece for a whole pattern, if no group is left open. -/
def whole? (st : State) : Option Piece :=
  if st.outer.isEmpty then some st.group.piece else none

theorem whole?_eq_none {st : State} (h : st.outer ≠ []) : st.whole? = none := by
  rw [whole?, if_neg (by simpa using h)]

/-- Without a closing parenthesis the group around stays open. -/
theorem run?_within_nil {st : State} {g : OpenGroup} {e : Element} (he : e ≠ .closes)
    (fuel : Nat) :
    ((((st.within g).after? e).map (·, [])).bind fun r => r.1.run? fuel r.2).bind whole? =
      none := by
  rw [after?_within g fun h => absurd h he]
  cases st.after? e with
  | none => rfl
  | some st' =>
      cases fuel with
      | zero => rfl
      | succ fuel =>
          change ((st'.within g).run? (fuel + 1) []).bind whole? = none
          rw [run?_of_skip_eq_nil _ (skip_nil _)]
          exact whole?_eq_none (outer_within_ne_nil st' g)

end State

/-! ## Places of a pattern -/

/-- A place of a pattern: what is known of the pattern up to it, and the rest. -/
abbrev Place := State × List Char

def ReadsTo (p q : Place) : Prop :=
  p.1.step? (p.1.flags.skip p.2) = some q

def Reaches : Place → Place → Prop :=
  Relation.ReflTransGen ReadsTo

/-- The next parenthesis closes no group of the pattern. -/
def Place.ClosesTooMuch (p : Place) : Prop :=
  p.1.outer = [] ∧ (p.1.flags.skip p.2).head? = some ')'

/-- A comment goes on to the end, so that it takes a parenthesis behind the pattern as well. -/
def Place.EndsInComment (p : Place) : Prop :=
  p.1.flags.skip (p.2 ++ [')']) = []

theorem ReadsTo.skip_ne_nil {p q : Place} (h : ReadsTo p q) : p.1.flags.skip p.2 ≠ [] := by
  intro hnil
  rw [ReadsTo, hnil] at h
  cases h

/-- The rest of a pattern is read from each place on the way. -/
theorem Reaches.exists_run? {p q : Place} (h : Reaches p q) {fuel : Nat} {st : State}
    (hrun : p.1.run? fuel p.2 = some st) : ∃ fuel', q.1.run? fuel' q.2 = some st := by
  induction h using Relation.ReflTransGen.head_induction_on generalizing fuel with
  | refl => exact ⟨fuel, hrun⟩
  | head hstep _ ih =>
      cases fuel with
      | zero => cases hrun
      | succ fuel =>
          rw [run?_cons hstep.skip_ne_nil, hstep] at hrun
          exact ih hrun

/-- No parenthesis closes too much in a pattern that is read. -/
theorem not_closesTooMuch_of_run? {p : Place} {fuel : Nat} {st : State}
    (h : p.1.run? fuel p.2 = some st) : ¬p.ClosesTooMuch := by
  rintro ⟨houter, hhead⟩
  obtain ⟨rest, hskip⟩ := List.head?_eq_some_iff.mp hhead
  have hstep : p.1.step? (p.1.flags.skip p.2) = none := by
    rw [hskip]
    change p.1.closeGroup?.map _ = none
    rw [State.closeGroup?, houter]
    rfl
  cases fuel with
  | zero => cases h
  | succ fuel =>
      rw [run?_cons (by rw [hskip]; exact List.cons_ne_nil _ _), hstep] at h
      cases h

/-- From a place in front of an element, the others are reached through the next one. -/
theorem forall_reaches_iff {p q : Place} (h : ReadsTo p q) {P : Place → Prop} (hp : P p) :
    (∀ r, Reaches p r → P r) ↔ ∀ r, Reaches q r → P r := by
  constructor
  · exact fun hall r hr => hall r (.head h hr)
  · intro hall r hr
    rcases hr.cases_head with rfl | ⟨q', hq', hr⟩
    · exact hp
    · obtain rfl : q' = q := Option.some.inj (hq'.symm.trans h)
      exact hall r hr

/-- From the end nothing more is reached. -/
theorem Reaches.eq_of_skip_eq_nil {p q : Place} (h : Reaches p q)
    (hnil : p.1.flags.skip p.2 = []) : q = p := by
  rcases h.cases_head with rfl | ⟨q', hq', -⟩
  · rfl
  · exact absurd hnil hq'.skip_ne_nil

/-- The end of a pattern in a group: the parenthesis closes the group. -/
theorem run?_within_end {g : OpenGroup} {st : State} {s : List Char}
    (hskip : st.flags.skip (s ++ [')']) = [')']) (fuel : Nat) :
    ((st.within g).run? (fuel + 2) (s ++ [')'])).bind State.whole? =
      st.whole?.map fun p => (g.add ⟨p.regex, p.depth + 1⟩).piece := by
  have hskip' : (st.within g).flags.skip (s ++ [')']) = [')'] := hskip
  rw [run?_cons (by rw [hskip']; exact List.cons_ne_nil _ _), hskip']
  change (((st.within g).closeGroup?.map (·, [])).bind fun r => r.1.run? (fuel + 1) r.2).bind _ = _
  obtain ⟨flags, group, outer, names⟩ := st
  cases outer with
  | nil =>
      change (State.run? _ (fuel + 1) []).bind _ = _
      rw [run?_of_skip_eq_nil _ (skip_nil _)]
      rfl
  | cons parent outer =>
      change (State.run? _ (fuel + 1) []).bind _ = none
      rw [run?_of_skip_eq_nil _ (skip_nil _)]
      exact State.whole?_eq_none (List.append_ne_nil_of_right_ne_nil outer (List.cons_ne_nil g []))

/-- A group that is opened at the end stays open. -/
theorem run?_opens_end {st : State} {inner : Flags} {name : Option (List Char)} (fuel : Nat) :
    (((st.after? (.opens inner name)).map (·, [])).bind fun r => r.1.run? fuel r.2).bind
      State.whole? = none := by
  have hopen : ∀ st', st.after? (.opens inner name) = some st' → st'.outer ≠ [] := by
    intro st' h
    cases name with
    | none =>
        cases h
        exact List.cons_ne_nil _ _
    | some name =>
        dsimp only [State.after?] at h
        split at h
        · cases h
        · cases h
          exact List.cons_ne_nil _ _
  cases hst : st.after? (.opens inner name) with
  | none => rfl
  | some st' =>
      cases fuel with
      | zero => rfl
      | succ fuel =>
          change (st'.run? (fuel + 1) []).bind _ = none
          rw [run?_of_skip_eq_nil _ (skip_nil _)]
          exact State.whole?_eq_none (hopen st' hst)

/-- At the end of a pattern the parenthesis is read next, or a comment takes it. -/
theorem run?_within_iff_of_skip_eq_nil {g : OpenGroup} {st : State} {s : List Char}
    (hnil : st.flags.skip s = []) (fuel fuel' : Nat) {q : Piece} :
    ((st.within g).run? (fuel' + 2) (s ++ [')'])).bind State.whole? = some q ↔
      (∀ p, Reaches (st, s) p → ¬p.EndsInComment) ∧
        ∃ p, (st.run? (fuel + 1) s).bind State.whole? = some p ∧
          q = (g.add ⟨p.regex, p.depth + 1⟩).piece := by
  rw [run?_of_skip_eq_nil _ hnil]
  rcases closed_skip st.flags s with hskip | ⟨-, hskip⟩
  · rw [hnil, List.nil_append] at hskip
    have hcomment : ∀ p, Reaches (st, s) p → ¬p.EndsInComment := by
      intro p hp hend
      rw [hp.eq_of_skip_eq_nil hnil, Place.EndsInComment, hskip] at hend
      cases hend
    rw [run?_within_end hskip, Option.map_eq_some_iff]
    constructor
    · rintro ⟨p, hp, rfl⟩
      exact ⟨hcomment, p, hp, rfl⟩
    · rintro ⟨-, p, hp, rfl⟩
      exact ⟨p, hp, rfl⟩
  · rw [run?_of_skip_eq_nil (st.within g) hskip]
    refine iff_of_false ?_ fun h => h.1 (st, s) .refl hskip
    rw [Option.bind_some, State.whole?_eq_none (State.outer_within_ne_nil st g)]
    nofun

theorem skip_append_of_ne_nil {s : List Char} (hnil : flags.skip s ≠ []) :
    flags.skip (s ++ [')']) = flags.skip s ++ [')'] :=
  (closed_skip flags s).eq_append hnil

theorem skip_append_ne_nil {s : List Char} (hnil : flags.skip s ≠ []) :
    flags.skip (s ++ [')']) ≠ [] := by
  rw [skip_append_of_ne_nil hnil]
  exact List.append_ne_nil_of_left_ne_nil hnil _

theorem run?_within_cons {g : OpenGroup} {st : State} {s : List Char}
    (hnil : st.flags.skip s ≠ []) (fuel : Nat) :
    (st.within g).run? (fuel + 1) (s ++ [')']) =
      ((st.within g).step? (st.flags.skip s ++ [')'])).bind fun r => r.1.run? fuel r.2 := by
  have hflags : (st.within g).flags = st.flags := rfl
  rw [run?_cons (skip_append_ne_nil (hflags ▸ hnil)), hflags, skip_append_of_ne_nil hnil]

/-- No pattern ends in an element that takes the parenthesis, in a group or alone. -/
theorem TakesClose.run?_eq_none {g : OpenGroup} {st : State} {s : List Char} {e : Element}
    (h : TakesClose st.flags (st.flags.skip s) e) (hnil : st.flags.skip s ≠ [])
    (fuel fuel' : Nat) :
    ((st.within g).run? (fuel' + 1) (s ++ [')'])).bind State.whole? = none ∧
      (st.run? (fuel + 1) s).bind State.whole? = none := by
  have hflags : (st.within g).flags = st.flags := rfl
  constructor
  · rw [run?_within_cons hnil, State.step?_eq, hflags, h.element?_eq, Option.bind_some]
    exact State.run?_within_nil h.ne_closes fuel'
  · rw [run?_cons hnil, State.step?_eq]
    rcases h.alone with halone | ⟨halone, inner, name, rfl⟩
    · rw [halone]
      rfl
    · rw [halone, Option.bind_some]
      exact run?_opens_end fuel

/--
A pattern in a group is read exactly if it is read alone and does not end in a comment, unless
it closes too much.  The group is then one piece for the pattern.
-/
theorem run?_within_iff {g : OpenGroup} {fuel fuel' : Nat} {st : State} {s : List Char}
    (hfuel : s.length < fuel) (hfuel' : s.length + 1 < fuel')
    (hclose : ∀ p, Reaches (st, s) p → ¬p.ClosesTooMuch) {q : Piece} :
    ((st.within g).run? fuel' (s ++ [')'])).bind State.whole? = some q ↔
      (∀ p, Reaches (st, s) p → ¬p.EndsInComment) ∧
        ∃ p, (st.run? fuel s).bind State.whole? = some p ∧
          q = (g.add ⟨p.regex, p.depth + 1⟩).piece := by
  induction fuel generalizing st s fuel' with
  | zero => omega
  | succ fuel ih =>
      obtain ⟨fuel', rfl⟩ : ∃ n, fuel' = n + 2 := ⟨fuel' - 2, by omega⟩
      have hflags : (st.within g).flags = st.flags := rfl
      by_cases hnil : st.flags.skip s = []
      · exact run?_within_iff_of_skip_eq_nil hnil fuel fuel'
      rcases element?_append st.flags hnil with hlocal | ⟨e, htakes⟩
      · -- The next element is the same, and the pattern goes on behind it.
        rw [run?_within_cons hnil, run?_cons hnil, State.step?_eq, State.step?_eq, hflags, hlocal]
        cases helement : element? st.flags (st.flags.skip s) with
        | none => simp
        | some r =>
            obtain ⟨e, rest⟩ := r
            have hrest : rest.length < s.length :=
              Nat.lt_of_lt_of_le (length_element?_lt helement) (length_skip_le st.flags s)
            have houter : e = .closes → st.outer ≠ [] := by
              rintro rfl houter
              exact hclose (st, s) .refl ⟨houter, head?_of_element?_eq_closes helement⟩
            dsimp only [Option.map_some, Option.bind_some, keepClose]
            rw [State.after?_within g houter]
            cases hst : st.after? e with
            | none => simp
            | some st' =>
                have hreads : ReadsTo (st, s) (st', rest) := by
                  rw [ReadsTo, State.step?_eq, helement, Option.bind_some, hst]
                  rfl
                have hcomment : ¬Place.EndsInComment (st, s) := skip_append_ne_nil hnil
                rw [forall_reaches_iff hreads hcomment]
                exact ih (by omega) (by omega) fun p hp => hclose p (.head hreads hp)
      · obtain ⟨hwithin, halone⟩ := htakes.run?_eq_none (g := g) hnil fuel (fuel' + 1)
        rw [hwithin, halone]
        refine iff_of_false nofun ?_
        rintro ⟨-, p, hp, -⟩
        cases hp

/-! ## Whole patterns -/

/-- The piece that a pattern is read as, however deeply it is nested. -/
def read? (pattern : List Char) : Option Piece :=
  (State.initial.run? (pattern.length + 1) pattern).bind State.whole?

theorem parse?_eq (pattern : String) :
    parse? pattern = (read? pattern.toList).bind fun p =>
      if p.depth ≤ nestLimit then some p.regex else none := by
  unfold parse? read?
  dsimp only [bind, Option.bind_assoc]
  cases State.initial.run? (pattern.toList.length + 1) pattern.toList with
  | none => rfl
  | some st =>
      rw [Option.bind_some, Option.bind_some, State.whole?]
      split <;> rfl

/-- A parenthesis of the pattern closes no group that the pattern opens. -/
def ClosesTooMuch (pattern : List Char) : Prop :=
  ∃ p, Reaches (State.initial, pattern) p ∧ p.ClosesTooMuch

/-- The pattern ends in a comment, which goes on behind it. -/
def EndsInComment (pattern : List Char) : Prop :=
  ∃ p, Reaches (State.initial, pattern) p ∧ p.EndsInComment

/-- A pattern that is read alone closes only what it opens. -/
theorem not_closesTooMuch_of_read? {pattern : List Char} {p : Piece}
    (h : read? pattern = some p) : ¬ClosesTooMuch pattern := by
  rintro ⟨place, hplace, hclose⟩
  obtain ⟨st, hst, -⟩ := Option.bind_eq_some_iff.mp h
  obtain ⟨fuel, hrun⟩ := Reaches.exists_run? hplace hst
  exact not_closesTooMuch_of_run? hrun hclose

/-- A pattern in a group behind a text that is read without leaving a group open. -/
theorem read?_group_iff {u pattern : List Char} {g : OpenGroup}
    (hu : Leads State.initial u { State.initial with group := g })
    (hclose : ¬ClosesTooMuch pattern) {q : Piece} :
    read? (u ++ (['(', '?', ':'] ++ pattern ++ [')'])) = some q ↔
      ¬EndsInComment pattern ∧
        ∃ p, read? pattern = some p ∧ q = (g.add ⟨p.regex, p.depth + 1⟩).piece := by
  obtain ⟨k, hk, hrun⟩ := hu.run?_eq
  have hopen : State.step? { State.initial with group := g }
      ('(' :: '?' :: ':' :: (pattern ++ [')'])) =
        some (State.initial.within g, pattern ++ [')']) := by
    simp [State.step?, State.readGroup?, State.initial, Flags.skip, Flags.initial, readFlags?,
      State.openGroup, State.within]
  -- The text in front takes `k` steps, the opening one, and there is fuel for all of the rest.
  obtain ⟨fuel, hfuel⟩ : ∃ fuel,
      (u ++ (['(', '?', ':'] ++ pattern ++ [')'])).length + 1 = fuel + 1 + k :=
    ⟨u.length - k + pattern.length + 4, by
      simp only [List.length_append, List.length_cons, List.length_nil]
      omega⟩
  have hread : read? (u ++ (['(', '?', ':'] ++ pattern ++ [')'])) =
      ((State.initial.within g).run? fuel (pattern ++ [')'])).bind State.whole? := by
    rw [read?, hfuel, hrun (fuel + 1) _ (by simp [KeepsGreed])]
    exact congrArg (Option.bind · State.whole?) (State.run?_of_step? rfl hopen fuel)
  have hclose' : ∀ p, Reaches (State.initial, pattern) p → ¬p.ClosesTooMuch := fun p hp hp' =>
    hclose ⟨p, hp, hp'⟩
  have hlength : pattern.length + 1 < fuel := by
    simp only [List.length_append, List.length_cons, List.length_nil] at hfuel
    omega
  rw [hread, run?_within_iff (Nat.lt_succ_self _) hlength hclose', EndsInComment, not_exists]
  simp only [not_and]
  rfl

end Pattern

end StylePrune
