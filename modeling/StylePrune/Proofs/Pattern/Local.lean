import StylePrune.Pattern.Parser

/-!
# Parts of a pattern in front of a closing parenthesis

A part of a pattern is read in front of a closing parenthesis as it is read at the end of the
pattern: no part but a group and an escape ends in one.  In verbose mode a comment can take the
parenthesis, but then the part before it is not complete in either text.
-/

namespace StylePrune

namespace Pattern

open Text

/-! ## Texts -/

/-- The second text is the first in front of a parenthesis, or both are nothing. -/
def Closed (s s' : List Char) : Prop :=
  s' = s ++ [')'] ∨ s = [] ∧ s' = []

theorem Closed.append (s : List Char) : Closed s (s ++ [')']) :=
  .inl rfl

theorem Closed.eq_append {s s' : List Char} (h : Closed s s') (hs : s ≠ []) :
    s' = s ++ [')'] := by
  rcases h with h | ⟨hnil, -⟩
  · exact h
  · exact absurd hnil hs

theorem Closed.exists_eq_cons {s s' : List Char} (h : Closed s s') {c : Char} {v : List Char}
    (hc : c ≠ ')') (hs : s' = c :: v) : ∃ u, s = c :: u ∧ v = u ++ [')'] := by
  rcases h with rfl | ⟨-, rfl⟩
  · cases s with
    | nil => exact absurd (List.cons.inj hs).1.symm hc
    | cons d u =>
        obtain ⟨rfl, rfl⟩ := List.cons.inj hs
        exact ⟨u, rfl, rfl⟩
  · cases hs

/-- Where the first text does not start with a character, the second does not either. -/
theorem Closed.ne_cons {s s' : List Char} (h : Closed s s') {c : Char} (hc : c ≠ ')')
    (hs : ∀ u, s = c :: u → False) : ∀ v, s' = c :: v → False := by
  intro v hv
  obtain ⟨u, hu, -⟩ := h.exists_eq_cons hc hv
  exact hs u hu

theorem Closed.ne_cons_cons {s s' : List Char} (h : Closed s s') {c d : Char} (hc : c ≠ ')')
    (hd : d ≠ ')') (hs : ∀ u, s = c :: d :: u → False) : ∀ v, s' = c :: d :: v → False := by
  intro v hv
  obtain ⟨u, rfl, hu⟩ := h.exists_eq_cons hc hv
  obtain ⟨w, rfl, -⟩ := (Closed.append u).exists_eq_cons hd hu.symm
  exact hs w rfl

theorem closed_skipBlanks (inComment : Bool) (s : List Char) :
    Closed (skipBlanks inComment s) (skipBlanks inComment (s ++ [')'])) := by
  fun_induction skipBlanks inComment s with
  | case1 inComment =>
      cases inComment with
      | true => exact .inr ⟨rfl, rfl⟩
      | false => exact .inl rfl
  | case2 c rest ih => simpa only [List.cons_append, skipBlanks, if_pos] using ih
  | case3 inComment c rest hc hb ih =>
      simpa only [List.cons_append, skipBlanks, if_neg hc, if_pos hb] using ih
  | case4 inComment rest hc hb ih =>
      simpa only [List.cons_append, skipBlanks, if_neg hc, if_neg hb, if_pos] using ih
  | case5 inComment c rest hc hb hhash =>
      refine .inl ?_
      rw [List.cons_append, skipBlanks, if_neg hc, if_neg hb, if_neg hhash]

theorem closed_skip (flags : Flags) (s : List Char) :
    Closed (flags.skip s) (flags.skip (s ++ [')'])) := by
  unfold Flags.skip
  split
  · exact closed_skipBlanks false s
  · exact .append s

theorem skip_nil (flags : Flags) : flags.skip [] = [] := by
  unfold Flags.skip
  split <;> rfl

theorem skip_close (flags : Flags) : flags.skip [')'] = [')'] := by
  unfold Flags.skip
  split <;> rfl

theorem Closed.skip {s s' : List Char} (h : Closed s s') (flags : Flags) :
    Closed (flags.skip s) (flags.skip s') := by
  rcases h with rfl | ⟨rfl, rfl⟩
  · exact closed_skip flags s
  · refine .inr ⟨?_, ?_⟩ <;> · unfold Flags.skip; split <;> rfl

section

variable {p : Char → Bool}

theorem takeWhile_append_close (hp : p ')' = false) (s : List Char) :
    (s ++ [')']).takeWhile p = s.takeWhile p := by
  rw [List.takeWhile_append, List.takeWhile_cons_of_neg (by simp [hp])]
  split
  · rename_i h
    rw [List.append_nil, (List.takeWhile_prefix p).eq_of_length h]
  · rfl

theorem dropWhile_append_close (hp : p ')' = false) (s : List Char) :
    (s ++ [')']).dropWhile p = s.dropWhile p ++ [')'] := by
  rw [List.dropWhile_append, List.dropWhile_cons_of_neg (by simp [hp])]
  split
  · rename_i h
    rw [List.isEmpty_iff.mp h]
    rfl
  · rfl

theorem dropWhile_append_of_eq_nil (hp : p ')' = true) {s : List Char} (h : s.dropWhile p = []) :
    (s ++ [')']).dropWhile p = [] := by
  rw [List.dropWhile_append, h]
  simp [hp]

/-- Where the first text stops the taking, what stands behind it is left. -/
theorem dropWhile_append_of_eq_cons {s rest : List Char} {c : Char}
    (h : s.dropWhile p = c :: rest) (v : List Char) :
    (s ++ v).dropWhile p = c :: (rest ++ v) := by
  rw [List.dropWhile_append, if_neg (by simp [h]), h]
  rfl

theorem takeWhile_append_of_eq_cons {s rest : List Char} {c : Char}
    (h : s.dropWhile p = c :: rest) (v : List Char) :
    (s ++ v).takeWhile p = s.takeWhile p := by
  rw [List.takeWhile_append, if_neg]
  intro hlength
  have hall := (List.takeWhile_prefix p).eq_of_length hlength
  have hparts := List.takeWhile_append_dropWhile (p := p) (l := s)
  rw [hall, h] at hparts
  cases List.append_right_eq_self.mp hparts

theorem Closed.takeWhile (hp : p ')' = false) {s s' : List Char} (h : Closed s s') :
    s'.takeWhile p = s.takeWhile p := by
  rcases h with rfl | ⟨rfl, rfl⟩
  · exact takeWhile_append_close hp s
  · rfl

theorem Closed.dropWhile (hp : p ')' = false) {s s' : List Char} (h : Closed s s') :
    Closed (s.dropWhile p) (s'.dropWhile p) := by
  rcases h with rfl | ⟨rfl, rfl⟩
  · exact .inl (dropWhile_append_close hp s)
  · exact .inr ⟨rfl, rfl⟩

theorem Closed.dropBlanks {s s' : List Char} (h : Closed s s') :
    Closed (dropBlanks s) (dropBlanks s') :=
  h.dropWhile (by decide)

end

/-! ## Readers -/

variable {α β : Type}

/-- Reading leaves the parenthesis behind the text as it is. -/
def keepClose (r : α × List Char) : α × List Char :=
  (r.1, r.2 ++ [')'])

/-- The reader does the same in front of a parenthesis as at the end, and leaves it there. -/
def IsLocal (f : List Char → Option (α × List Char)) : Prop :=
  ∀ s, f (s ++ [')']) = (f s).map keepClose

namespace IsLocal

variable {f : List Char → Option (α × List Char)}

theorem closed (h : IsLocal f) (hnil : f [] = none) {s s' : List Char} (hs : Closed s s') :
    f s' = (f s).map keepClose := by
  rcases hs with rfl | ⟨rfl, rfl⟩
  · exact h s
  · rw [hnil]
    rfl

theorem map (h : IsLocal f) (g : α → β) : IsLocal fun s => (f s).map fun r => (g r.1, r.2) := by
  intro s
  dsimp only
  rw [h s, Option.map_map, Option.map_map]
  rfl

theorem bind (h : IsLocal f) {g : α → List Char → Option (β × List Char)}
    (hg : ∀ a, IsLocal (g a)) : IsLocal fun s => (f s).bind fun r => g r.1 r.2 := by
  intro s
  dsimp only
  rw [h s]
  cases hs : f s with
  | none => rfl
  | some r => exact hg r.1 r.2

end IsLocal

/-! ## Escapes -/

theorem isLocal_hexFixed? (flags : Flags) (n : Nat) : IsLocal (hexFixed? flags n) := by
  induction n with
  | zero => exact fun s => rfl
  | succ n ih =>
      intro s
      rw [hexFixed?, hexFixed?]
      rcases closed_skip flags s with h | ⟨h, h'⟩
      · rw [h]
        cases flags.skip s with
        | nil => rfl
        | cons c rest =>
            dsimp only [List.cons_append]
            split
            · rw [ih rest, Option.map_map, Option.map_map]
              rfl
            · rfl
      · rw [h, h']
        rfl

theorem isLocal_hexBraced? (flags : Flags) : IsLocal (hexBraced? flags) := by
  intro s
  unfold hexBraced?
  cases hrest : s.dropWhile (· != '\x7d') with
  | nil => rw [dropWhile_append_of_eq_nil (by decide) hrest]; rfl
  | cons c rest =>
      rw [dropWhile_append_of_eq_cons hrest, takeWhile_append_of_eq_cons hrest]
      dsimp only
      generalize (if flags.verbose = true then _ else _) = digits
      split <;> rfl

theorem hexFixed?_nil (flags : Flags) (n : Nat) : hexFixed? flags (n + 1) [] = none := by
  rw [hexFixed?, skip_nil]

/-- The digits of a hexadecimal escape, in braces or as many as the escape has. -/
def hexDigits? (flags : Flags) (n : Nat) (s : List Char) : Option (List Char × List Char) :=
  match s with
  | '\x7b' :: rest => hexBraced? flags rest
  | s => hexFixed? flags n s

theorem isLocal_hexDigits? (flags : Flags) (n : Nat) : IsLocal (hexDigits? flags (n + 1)) := by
  intro s
  fun_cases hexDigits? flags (n + 1) s with
  | case1 rest => exact isLocal_hexBraced? flags rest
  | case2 s h =>
      rw [hexDigits?.eq_2 _ _ _ ((Closed.append s).ne_cons (by decide) h)]
      exact isLocal_hexFixed? flags (n + 1) s

theorem hexChar?_eq (flags : Flags) (n : Nat) (s : List Char) :
    hexChar? flags n s = (hexDigits? flags n (flags.skip s)).bind fun r =>
      (scalar? (hexNumber r.1)).map fun c => (c, r.2) := by
  unfold hexChar?
  generalize flags.skip s = t
  fun_cases hexDigits? flags n t with
  | case1 rest =>
      split
      · rename_i rest' heq
        obtain rfl := (List.cons.inj heq).2
        cases hexBraced? flags rest with
        | none => rfl
        | some r => cases h : scalar? (hexNumber r.1) <;> simp [h]
      · rename_i hne
        exact absurd rfl (hne rest)
  | case2 t hne =>
      split
      · exact absurd rfl (hne _)
      · cases hexFixed? flags n t with
        | none => rfl
        | some r => cases h : scalar? (hexNumber r.1) <;> simp [h]

theorem isLocal_hexChar? (flags : Flags) (n : Nat) : IsLocal (hexChar? flags (n + 1)) := by
  have hchar : IsLocal fun s => (hexDigits? flags (n + 1) s).bind fun r =>
      (scalar? (hexNumber r.1)).map fun c => (c, r.2) := by
    refine (isLocal_hexDigits? flags n).bind
      (g := fun ds s => (scalar? (hexNumber ds)).map fun c => (c, s)) fun ds s => ?_
    cases scalar? (hexNumber ds) <;> rfl
  intro s
  have hnil : hexDigits? flags (n + 1) [] = none := hexFixed?_nil flags n
  rw [hexChar?_eq, hexChar?_eq]
  exact hchar.closed (by rw [hnil]; rfl) (closed_skip flags s)

theorem isLocal_propertyEscape? (flags : Flags) : IsLocal (propertyEscape? flags) := by
  intro s
  have hclose := closed_skip flags s
  fun_cases propertyEscape? flags s with
  | case1 h =>
      have hnone : propertyNamed? [')'] = none := by decide +kernel
      rw [h] at hclose
      rw [propertyEscape?]
      rcases hclose with h | ⟨-, h⟩
      · rw [h]
        simp [hnone]
      · rw [h]
        rfl
  | case2 rest h hrest =>
      rw [propertyEscape?, hclose.eq_append (by simp [h]), h]
      simp only [List.cons_append,
        dropWhile_append_of_eq_nil (p := (· != '\x7d')) (by decide) hrest]
      rfl
  | case3 rest h c after hafter =>
      rw [propertyEscape?, hclose.eq_append (by simp [h]), h]
      simp only [List.cons_append, takeWhile_append_of_eq_cons hafter,
        dropWhile_append_of_eq_cons hafter]
      cases propertyText? (rest.takeWhile (· != '\x7d')) <;> rfl
  | case4 rest h =>
      rw [propertyEscape?, hclose.eq_append (by simp [h]), h]
      rfl
  | case5 c rest h1 h2 h =>
      rw [propertyEscape?, hclose.eq_append (by simp [h]), h]
      simp only [List.cons_append]
      cases propertyNamed? [c] <;> rfl

theorem isLocal_boundaryNamed? (flags : Flags) : IsLocal (boundaryNamed? flags) := by
  intro s
  fun_cases boundaryNamed? flags s with
  | case1 rest isNamePart name hname =>
      rw [List.cons_append, boundaryNamed?]
      dsimp only
      rw [(closed_skip flags rest).takeWhile (p := isNamePart) (by decide), if_pos hname]
      rfl
  | case2 rest isNamePart name hname after hafter look =>
      have hne : flags.skip rest ≠ [] := by
        intro h
        rw [h] at hafter
        cases hafter
      rw [List.cons_append, boundaryNamed?]
      dsimp only
      rw [(closed_skip flags rest).eq_append hne,
        takeWhile_append_close (p := isNamePart) (by decide),
        dropWhile_append_close (p := isNamePart) (by decide), if_neg hname, hafter]
      rfl
  | case3 rest isNamePart name hname hafter =>
      have hne : flags.skip rest ≠ [] := by
        intro h
        exact hname (by simp [name, h])
      rw [List.cons_append, boundaryNamed?]
      dsimp only
      rw [(closed_skip flags rest).eq_append hne,
        takeWhile_append_close (p := isNamePart) (by decide),
        dropWhile_append_close (p := isNamePart) (by decide), if_neg hname]
      cases hd : (flags.skip rest).dropWhile isNamePart with
      | nil => rfl
      | cons c after =>
          rw [List.cons_append]
          split
          · rename_i after' heq
            obtain rfl := (List.cons.inj heq).1
            exact absurd hd (hafter after)
          · rfl
  | case4 s h => exact boundaryNamed?.eq_2 _ _ ((Closed.append s).ne_cons (by decide) h)

theorem isLocal_charClass (flags : Flags) (negated : Bool) (full ascii : CharSet) :
    IsLocal (readEscape?.charClass flags negated full ascii) := by
  intro s
  unfold readEscape?.charClass
  cases flags.classEscape? negated full ascii <;> rfl

theorem readEscape?_append (flags : Flags) {s : List Char} (hs : s ≠ []) :
    readEscape? flags (s ++ [')']) = (readEscape? flags s).map keepClose := by
  fun_cases readEscape? flags s with
  | case1 => exact absurd rfl hs
  | case2 rest => exact (isLocal_hexChar? flags 1).map Escape.char rest
  | case3 rest => exact (isLocal_hexChar? flags 3).map Escape.char rest
  | case4 rest => exact (isLocal_hexChar? flags 7).map Escape.char rest
  | case5 rest hu =>
      rw [List.cons_append, readEscape?, if_pos hu]
      exact (isLocal_propertyEscape? flags).map Escape.set rest
  | case7 rest hu =>
      rw [List.cons_append, readEscape?, if_pos hu]
      exact (isLocal_propertyEscape? flags).map (fun s => Escape.set (.compl s)) rest
  | case6 rest hu | case8 rest hu => rw [List.cons_append, readEscape?, if_neg hu]; rfl
  | case9 rest | case10 rest | case11 rest | case12 rest | case13 rest | case14 rest =>
      exact isLocal_charClass flags _ _ _ rest
  | case23 rest l rest' h | case24 rest rest' h | case25 rest h =>
      rw [List.cons_append, readEscape?, isLocal_boundaryNamed? flags rest, h]
      rfl
  | case29 | case30 => simp [readEscape?, keepClose, *]
  | _ => rfl

/-! ## Sets in brackets -/

/-- The start of a class in brackets: whether it is negated. -/
def bracketStart? : List Char → Option (Bool × List Char)
  | '[' :: ':' :: '^' :: rest => some (true, rest)
  | '[' :: ':' :: rest => some (false, rest)
  | _ => none

def classNamed? (negated : Bool) (s : List Char) : Option (CharSet × List Char) :=
  match s.dropWhile (· != ':') with
  | ':' :: ']' :: after => do
      let set ← asciiClass? (String.ofList (s.takeWhile (· != ':')))
      return (.complIf negated set, after)
  | _ => none

theorem bracketClass?_eq (s : List Char) :
    bracketClass? s = (bracketStart? s).bind fun r => classNamed? r.1 r.2 := by
  fun_cases bracketStart? s with
  | case1 rest => rfl
  | case2 rest h =>
      rw [bracketClass?]
      · rfl
      · exact h
  | case3 s h h' =>
      rw [bracketClass?.eq_3 s h']
      rfl

theorem isLocal_bracketStart? : IsLocal bracketStart? := by
  intro s
  fun_cases bracketStart? s with
  | case1 rest => rfl
  | case2 rest h =>
      rw [List.cons_append, List.cons_append,
        bracketStart?.eq_2 _ ((Closed.append rest).ne_cons (by decide) h)]
      rfl
  | case3 s h h' =>
      have hstart := (Closed.append s).ne_cons_cons (by decide) (by decide) h'
      exact bracketStart?.eq_3 _ (fun v => hstart _) hstart

theorem isLocal_classNamed? (negated : Bool) : IsLocal (classNamed? negated) := by
  intro s
  fun_cases classNamed? negated s with
  | case1 after h =>
      rw [classNamed?, dropWhile_append_of_eq_cons h, takeWhile_append_of_eq_cons h]
      dsimp only [List.cons_append]
      cases asciiClass? (String.ofList (s.takeWhile (· != ':'))) <;> rfl
  | case2 h =>
      rw [classNamed?]
      split
      · rename_i v hv
        have hclose : Closed (s.dropWhile (· != ':')) ((s ++ [')']).dropWhile (· != ':')) := by
          cases hd : s.dropWhile (· != ':') with
          | nil => exact .inr ⟨rfl, dropWhile_append_of_eq_nil (by decide) hd⟩
          | cons c rest => exact .inl (dropWhile_append_of_eq_cons hd _)
        exact absurd hv (hclose.ne_cons_cons (by decide) (by decide) h v)
      · rfl

theorem isLocal_bracketClass? : IsLocal bracketClass? := by
  intro s
  rw [bracketClass?_eq, bracketClass?_eq]
  exact isLocal_bracketStart?.bind (g := classNamed?) isLocal_classNamed? s

/-- The reader does the same in front of a parenthesis, or it takes the parenthesis as well. -/
def IsLocalOrTakes {α : Type} (f : List Char → Option (α × List Char)) : Prop :=
  ∀ s, f (s ++ [')']) = (f s).map keepClose ∨ f s = none ∧ ∃ a, f (s ++ [')']) = some (a, [])

theorem isLocalOrTakes_setItem? (flags : Flags) : IsLocalOrTakes (setItem? flags) := by
  intro s
  fun_cases setItem? flags s with
  | case1 => exact .inr ⟨rfl, _, rfl⟩
  | case2 rest =>
      by_cases hrest : rest = []
      · subst hrest
        exact .inr ⟨rfl, _, rfl⟩
      · exact .inl (readEscape?_append flags hrest)
  | case3 c rest hc =>
      refine .inl ?_
      rw [List.cons_append, setItem?.eq_3 _ _ _ hc]
      rfl

/-- What follows a hyphen is the same text in front of the parenthesis. -/
theorem rangeFollows?_closed (flags : Flags) {s s' : List Char} (h : Closed s s') :
    rangeFollows? flags s = none ∧ rangeFollows? flags s' = none ∨
      ∃ t t', rangeFollows? flags s = some t ∧ rangeFollows? flags s' = some t' ∧ Closed t t' := by
  rcases h with rfl | ⟨rfl, rfl⟩
  · fun_cases rangeFollows? flags s with
    | case1 rest t h | case2 rest t h =>
        refine .inl ⟨rfl, ?_⟩
        rw [List.cons_append, rangeFollows?, (closed_skip flags rest).eq_append (by simp [h]), h]
        rfl
    | case3 rest h1 h2 =>
        refine .inr ⟨_, flags.skip (rest ++ [')']), rfl, ?_, closed_skip flags rest⟩
        rw [List.cons_append, rangeFollows?]
        split
        · rename_i v hv
          exact absurd hv ((closed_skip flags rest).ne_cons (by decide) h1 v)
        · rename_i v hv
          exact absurd hv ((closed_skip flags rest).ne_cons (by decide) h2 v)
        · rfl
    | case4 s h =>
        exact .inl ⟨rfl, rangeFollows?.eq_2 _ _ ((Closed.append s).ne_cons (by decide) h)⟩
  · exact .inl ⟨rfl, rfl⟩

def itemSet? : Escape → Option CharSet
  | .char c => some (.single c)
  | .set set => some set
  | .look _ => none

def rangeTo? (flags : Flags) (first : Escape) (s : List Char) : Option (CharSet × List Char) :=
  (setItem? flags s).bind fun r =>
    match first, r.1 with
    | .char a, .char b => if a ≤ b then some (.range a b, r.2) else none
    | _, _ => none

theorem isLocalOrTakes_rangeTo? (flags : Flags) (first : Escape) :
    IsLocalOrTakes (rangeTo? flags first) := by
  intro s
  unfold rangeTo?
  rcases isLocalOrTakes_setItem? flags s with h | ⟨h, last, h'⟩
  · rw [h]
    refine .inl ?_
    cases setItem? flags s with
    | none => rfl
    | some r =>
        obtain ⟨last, rest⟩ := r
        cases first <;> cases last <;> dsimp only [Option.map_some, Option.bind_some, keepClose]
        · split <;> rfl
        all_goals rfl
  · rw [h, h']
    cases first <;> cases last <;> dsimp only [Option.bind_some]
    · split
      · exact .inr ⟨rfl, _, rfl⟩
      · exact .inl rfl
    all_goals exact .inl rfl

theorem setRange?_eq (flags : Flags) (s : List Char) :
    setRange? flags s = (setItem? flags s).bind fun r =>
      match rangeFollows? flags (flags.skip r.2) with
      | none => (itemSet? r.1).map fun set => (set, r.2)
      | some t => rangeTo? flags r.1 t := by
  unfold setRange?
  cases setItem? flags s with
  | none => rfl
  | some r =>
      obtain ⟨first, rest⟩ := r
      simp only [bind, Option.bind]
      cases rangeFollows? flags (flags.skip rest) with
      | none => cases first <;> rfl
      | some t => rfl

theorem isLocalOrTakes_setRange? (flags : Flags) : IsLocalOrTakes (setRange? flags) := by
  intro s
  rw [setRange?_eq, setRange?_eq]
  rcases isLocalOrTakes_setItem? flags s with h | ⟨h, first, h'⟩
  · rw [h]
    cases setItem? flags s with
    | none => exact .inl rfl
    | some r =>
        simp only [Option.map_some, Option.bind_some, keepClose]
        rcases rangeFollows?_closed flags (closed_skip flags r.2) with
          ⟨hrest, hrest'⟩ | ⟨t, t', hrest, hrest', hclose⟩
        · rw [hrest, hrest']
          exact .inl (by cases itemSet? r.1 <;> rfl)
        · rw [hrest, hrest']
          rcases hclose with rfl | ⟨rfl, rfl⟩
          · exact isLocalOrTakes_rangeTo? flags r.1 t
          · exact .inl rfl
  · rw [h, h']
    simp only [Option.bind_some, skip_nil]
    cases hset : itemSet? first with
    | none => exact .inl (by simp [rangeFollows?])
    | some set => exact .inr ⟨rfl, set, by simp [rangeFollows?]⟩

/-- Whether a set starts with a caret, and what stands behind it. -/
def afterCaret (flags : Flags) (s : List Char) : Bool × List Char :=
  match flags.skip s with
  | '^' :: rest => (true, flags.skip rest)
  | s => (false, s)

theorem closed_afterCaret (flags : Flags) (s : List Char) :
    (afterCaret flags (s ++ [')'])).1 = (afterCaret flags s).1 ∧
      Closed (afterCaret flags s).2 (afterCaret flags (s ++ [')'])).2 := by
  have hclose := closed_skip flags s
  fun_cases afterCaret flags s with
  | case1 rest h =>
      rw [afterCaret, hclose.eq_append (by simp [h]), h]
      exact ⟨rfl, closed_skip flags rest⟩
  | case2 h =>
      rw [afterCaret]
      split
      · rename_i v hv
        exact absurd hv (hclose.ne_cons (by decide) h v)
      · exact ⟨rfl, hclose⟩

def openSetAt? (negated : Bool) (hyphens s : List Char) : Option (OpenSet × List Char) :=
  let set := OpenSet.start negated hyphens
  match hyphens, s with
  | _, [] => none
  | [], ']' :: rest => some (set.add ⟨.single ']', 0⟩, rest)
  | _, s => some (set, s)

theorem openSet?_eq (flags : Flags) (s : List Char) :
    openSet? flags s =
      let p := afterCaret flags s
      if p.1 && !flags.unicode then none
      else openSetAt? p.1 (p.2.takeWhile (· == '-')) (flags.skip (p.2.dropWhile (· == '-'))) :=
  rfl

/-- A set can start in front of the parenthesis, but with nothing in it. -/
def IsLocalOrStarts {α : Type} (f : List Char → Option (α × List Char)) (s s' : List Char) :
    Prop :=
  f s' = (f s).map keepClose ∨ f s = none ∧ ∀ r ∈ f s', r.2 = [')']

theorem openSetAt?_closed (negated : Bool) (hyphens : List Char) {s s' : List Char}
    (h : Closed s s') : IsLocalOrStarts (openSetAt? negated hyphens) s s' := by
  rcases h with rfl | ⟨rfl, rfl⟩
  · fun_cases openSetAt? negated hyphens s with
    | case1 =>
        refine .inr ⟨rfl, fun r hr => ?_⟩
        cases hyphens <;> cases hr <;> rfl
    | case2 set rest => exact .inl rfl
    | case3 =>
        rename_i hne hbracket
        refine .inl ?_
        rw [openSetAt?.eq_3 negated hyphens s hne hbracket, openSetAt?.eq_3]
        · rfl
        · simp
        · exact fun v hnil =>
            (Closed.append s).ne_cons (by decide) (fun u => hbracket u hnil) v
  · exact .inl (by cases hyphens <;> rfl)

theorem openSet?_append (flags : Flags) (s : List Char) :
    IsLocalOrStarts (openSet? flags) s (s ++ [')']) := by
  obtain ⟨hnegated, hclose⟩ := closed_afterCaret flags s
  have hrest := (hclose.dropWhile (p := (· == '-')) (by decide)).skip flags
  have hat :=
    openSetAt?_closed (afterCaret flags s).1 ((afterCaret flags s).2.takeWhile (· == '-')) hrest
  unfold IsLocalOrStarts
  rw [openSet?_eq, openSet?_eq]
  dsimp only
  rw [hnegated, hclose.takeWhile (p := (· == '-')) (by decide)]
  split
  · exact .inl rfl
  · exact hat

/-- The sets in brackets after one of their parts: all of them are closed, or some are open. -/
inductive SetStep
  | closed (set : NestedSet)
  | opened (current : OpenSet) (outer : List OpenSet)

def SetStep.finish (read : OpenSet → List OpenSet → List Char → Option (NestedSet × List Char))
    (rest : List Char) : SetStep → Option (NestedSet × List Char)
  | closed set => some (set, rest)
  | opened current outer => read current outer rest

/-- The text starts with one part of the sets in brackets that are open. -/
def setStep? (flags : Flags) (current : OpenSet) (outer : List OpenSet) (s : List Char) :
    Option (SetStep × List Char) :=
  match s with
  | [] => none
  | '[' :: rest =>
      match bracketClass? s with
      | some (set, rest) => some (.opened (current.add ⟨set, 0⟩) outer, rest)
      | none => (openSet? flags rest).map fun r => (.opened r.1 (current :: outer), r.2)
  | ']' :: rest =>
      match outer with
      | [] => some (.closed (current.close flags), rest)
      | parent :: outer => some (.opened (parent.add (current.close flags)) outer, rest)
  | '&' :: '&' :: rest => some (.opened (current.addOp .inter) outer, rest)
  | '-' :: '-' :: rest => some (.opened (current.addOp .diff) outer, rest)
  | '~' :: '~' :: rest => some (.opened (current.addOp .symmDiff) outer, rest)
  | s => (setRange? flags s).map fun r => (.opened (current.add ⟨r.1, 0⟩) outer, r.2)

theorem readSets_succ (flags : Flags) (fuel : Nat) (current : OpenSet) (outer : List OpenSet)
    (s : List Char) :
    readSets flags (fuel + 1) current outer s =
      (setStep? flags current outer (flags.skip s)).bind fun r =>
        r.1.finish (readSets flags fuel) r.2 := by
  rw [readSets]
  dsimp only
  generalize flags.skip s = t
  fun_cases setStep? flags current outer t with
  | case1 => rfl
  | case2 _ rest set after h =>
      simp only [h]
      rfl
  | case3 _ rest h =>
      simp only [h, Option.bind_map]
      rfl
  | case4 | case5 | case6 | case7 | case8 => rfl
  | case9 =>
      simp only [Option.bind_map]
      rfl

/-- Nothing is left to close the set. -/
theorem readSets_nil (flags : Flags) (fuel : Nat) (current : OpenSet) (outer : List OpenSet) :
    readSets flags fuel current outer [] = none := by
  cases fuel with
  | zero => rfl
  | succ fuel =>
      rw [readSets_succ, skip_nil]
      rfl

theorem setStep?_close (flags : Flags) (current : OpenSet) (outer : List OpenSet) :
    setStep? flags current outer [')'] =
      some (.opened (current.add ⟨.single ')', 0⟩) outer, []) := by
  have hrange : setRange? flags [')'] = some (.single ')', []) := by
    simp [setRange?, setItem?, skip_nil, rangeFollows?]
  rw [setStep?, hrange]
  · rfl
  all_goals simp

/-- No set in brackets closes with nothing but the parenthesis. -/
theorem readSets_close (flags : Flags) (fuel : Nat) (current : OpenSet) (outer : List OpenSet) :
    readSets flags fuel current outer [')'] = none := by
  cases fuel with
  | zero => rfl
  | succ fuel =>
      rw [readSets_succ, skip_close, setStep?_close]
      exact readSets_nil flags fuel _ outer

/--
In front of the parenthesis one part is read as it is alone, or it is no part alone and leaves
no closing bracket.
-/
theorem setStep?_append (flags : Flags) (current : OpenSet) (outer : List OpenSet)
    (s : List Char) :
    setStep? flags current outer (s ++ [')']) =
        (setStep? flags current outer s).map keepClose ∨
      setStep? flags current outer s = none ∧
        ∀ r ∈ setStep? flags current outer (s ++ [')']),
          ∃ inner around, r.1 = .opened inner around ∧ (r.2 = [] ∨ r.2 = [')']) := by
  fun_cases setStep? flags current outer s with
  | case1 =>
      refine .inr ⟨rfl, ?_⟩
      rw [List.nil_append, setStep?_close]
      rintro r ⟨⟩
      exact ⟨_, _, rfl, .inl rfl⟩
  | case2 _ rest set after h =>
      refine .inl ?_
      have hclass := isLocal_bracketClass? ('[' :: rest)
      rw [h] at hclass
      rw [List.cons_append, setStep?, ← List.cons_append, hclass, h]
      rfl
  | case3 _ rest h =>
      have hclass := isLocal_bracketClass? ('[' :: rest)
      rw [h] at hclass
      rw [List.cons_append, setStep?, ← List.cons_append, hclass, h]
      dsimp only [Option.map_none]
      rcases openSet?_append flags rest with hopen | ⟨hopen, hlast⟩
      · refine .inl ?_
        rw [hopen, Option.map_map, Option.map_map]
        rfl
      · refine .inr ⟨by rw [hopen]; rfl, fun r hr => ?_⟩
        obtain ⟨r', hr', rfl⟩ := Option.map_eq_some_iff.mp hr
        exact ⟨_, _, rfl, .inr (hlast r' hr')⟩
  | case4 | case5 | case6 | case7 | case8 => exact .inl rfl
  | case9 _ _ hnil hopen hclosing hand hminus htilde =>
      -- The text starts with what it starts with in front of the parenthesis.
      have hclose := Closed.append s
      rw [setStep?.eq_8 flags current outer _ (by simp) (hclose.ne_cons (by decide) hopen)
        (hclose.ne_cons (by decide) hclosing)
        (hclose.ne_cons_cons (by decide) (by decide) hand)
        (hclose.ne_cons_cons (by decide) (by decide) hminus)
        (hclose.ne_cons_cons (by decide) (by decide) htilde)]
      rcases isLocalOrTakes_setRange? flags s with hrange | ⟨hrange, set, hrange'⟩
      · refine .inl ?_
        rw [hrange, Option.map_map, Option.map_map]
        rfl
      · refine .inr ⟨by rw [hrange]; rfl, ?_⟩
        rw [hrange']
        rintro r ⟨⟩
        exact ⟨_, _, rfl, .inl rfl⟩

theorem isLocal_readSets (flags : Flags) (fuel : Nat) (current : OpenSet) (outer : List OpenSet) :
    IsLocal (readSets flags fuel current outer) := by
  intro s
  induction fuel generalizing current outer s with
  | zero => rfl
  | succ fuel ih =>
      rw [readSets_succ, readSets_succ]
      rcases closed_skip flags s with hskip | ⟨hnil, hskip⟩
      · rw [hskip]
        rcases setStep?_append flags current outer (flags.skip s) with h | ⟨h, hopen⟩
        · rw [h]
          cases setStep? flags current outer (flags.skip s) with
          | none => rfl
          | some r =>
              obtain ⟨step, rest⟩ := r
              cases step with
              | closed set => rfl
              | opened current outer => exact ih current outer rest
        · rw [h]
          cases hstep : setStep? flags current outer (flags.skip s ++ [')']) with
          | none => rfl
          | some r =>
              obtain ⟨step, rest⟩ := r
              obtain ⟨inner, around, rfl, rfl | rfl⟩ := hopen _ hstep
              · exact readSets_nil flags fuel inner around
              · exact readSets_close flags fuel inner around
      · rw [hnil, hskip]
        rfl

/-! ## Repetition -/

theorem dropLazy_append (s : List Char) : dropLazy (s ++ [')']) = dropLazy s ++ [')'] := by
  fun_cases dropLazy s with
  | case1 rest => rfl
  | case2 s h => exact dropLazy.eq_2 _ ((Closed.append s).ne_cons (by decide) h)

theorem closed_countNumber? (flags : Flags) {s s' : List Char} (h : Closed s s') :
    (countNumber? flags s').1 = (countNumber? flags s).1 ∧
      Closed (countNumber? flags s).2 (countNumber? flags s').2 := by
  have hdigits := h.dropBlanks.skip flags
  have hrest := ((hdigits.dropWhile (p := Char.isDigit) (by decide)).skip flags).dropBlanks
  unfold countNumber?
  dsimp only
  rw [hdigits.takeWhile (p := Char.isDigit) (by decide)]
  split
  · exact ⟨rfl, hrest⟩
  · exact ⟨rfl, hrest⟩

def boundedCounts? (flags : Flags) (least : Nat) (s : List Char) :
    Option ((Nat × Option Nat) × List Char) :=
  match countNumber? flags s with
  | (some most, '\x7d' :: rest) => if least ≤ most then some ((least, some most), rest) else none
  | _ => none

def countsFrom? (flags : Flags) : Option Nat → List Char → Option ((Nat × Option Nat) × List Char)
  | some n, '\x7d' :: rest => some ((n, some n), rest)
  | some n, ',' :: rest =>
      match flags.skip rest with
      | '\x7d' :: rest => some ((n, none), rest)
      | rest => boundedCounts? flags n rest
  | _, _ => none

theorem counts?_eq (flags : Flags) (s : List Char) :
    counts? flags s = countsFrom? flags (countNumber? flags s).1 (countNumber? flags s).2 := by
  unfold counts?
  obtain ⟨n, rest⟩ := countNumber? flags s
  dsimp only
  fun_cases countsFrom? flags n rest with
  | case1 n rest => rfl
  | case2 n rest after h => simp only [h]
  | case3 n rest h =>
      split
      · rename_i m v hv
        simp at hv
      · rename_i m v hv
        obtain ⟨rfl, rfl⟩ : n = m ∧ rest = v := by simpa using hv
        split
        · rename_i w hw
          exact absurd hw (h w)
        · rfl
      · rename_i hne
        exact absurd rfl (hne n rest)
  | case4 n rest h h' =>
      split
      · rename_i m v hv
        exact (h m v (Prod.mk.inj hv).1 (Prod.mk.inj hv).2).elim
      · rename_i m v hv
        exact (h' m v (Prod.mk.inj hv).1 (Prod.mk.inj hv).2).elim
      · rfl

theorem isLocal_boundedCounts? (flags : Flags) (least : Nat) {s s' : List Char}
    (h : Closed s s') :
    boundedCounts? flags least s' = (boundedCounts? flags least s).map keepClose := by
  obtain ⟨hn, hrest⟩ := closed_countNumber? flags h
  unfold boundedCounts?
  generalize countNumber? flags s = p at hn hrest
  generalize countNumber? flags s' = p' at hn hrest
  obtain ⟨n, rest⟩ := p
  obtain ⟨n', rest'⟩ := p'
  obtain rfl : n' = n := hn
  change Closed rest rest' at hrest
  cases n' with
  | none => rfl
  | some most =>
      rcases hrest with rfl | ⟨rfl, rfl⟩
      · cases rest with
        | nil => rfl
        | cons c rest =>
            by_cases hc : c = '\x7d'
            · subst hc
              simp only [List.cons_append]
              split <;> rfl
            · simp [hc]
      · rfl

theorem isLocal_counts? (flags : Flags) : IsLocal (counts? flags) := by
  intro s
  obtain ⟨hn, hrest⟩ := closed_countNumber? flags (Closed.append s)
  rw [counts?_eq, counts?_eq, hn]
  rcases hrest with hrest | ⟨hrest, hrest'⟩
  · rw [hrest]
    generalize (countNumber? flags s).1 = n
    generalize (countNumber? flags s).2 = t
    fun_cases countsFrom? flags n t with
    | case1 n rest => rfl
    | case2 n rest rest' h =>
        rw [List.cons_append, countsFrom?, (closed_skip flags rest).eq_append (by simp [h]), h]
        rfl
    | case3 n rest h =>
        rw [List.cons_append, countsFrom?]
        split
        · rename_i v hv
          exact absurd hv ((closed_skip flags rest).ne_cons (by decide) h v)
        · exact isLocal_boundedCounts? flags n (closed_skip flags rest)
    | case4 n t h h' =>
        refine countsFrom?.eq_3 _ _ _ ?_ ?_
        · exact fun m v hm => (Closed.append t).ne_cons (by decide) (fun u => h m u hm) v
        · exact fun m v hm => (Closed.append t).ne_cons (by decide) (fun u => h' m u hm) v
  · rw [hrest, hrest']
    cases (countNumber? flags s).1 <;> rfl

end Pattern

end StylePrune
