import StylePrune.Pattern.Parser

/-!
# Elements of a pattern

One step of reading in two parts: which element stands at a place of the pattern, which the
flags alone decide, and what the element does to the groups that are open.
-/

namespace StylePrune

namespace Pattern

open Text

inductive Element
  /-- Opens a group, which may have a name, inside which the flags hold. -/
  | opens (inner : Flags) (name : Option (List Char))
  /-- Sets the flags for the rest of the group. -/
  | sets (flags : Flags)
  | closes
  | bar
  | piece (r : Regex) (depth : Nat)
  | repeats (least : Nat) (most : Option Nat)

/-! ## Reading an element -/

/-- The start of a group with a name, behind the opening angle. -/
def namedStart? (flags : Flags) (s : List Char) : Option (Element × List Char) :=
  match s.dropWhile (· != '>') with
  | [] => none
  | _ :: rest =>
      if isGroupName (s.takeWhile (· != '>')) then
        some (.opens flags (some (s.takeWhile (· != '>'))), rest)
      else none

/-- The end of the letters for flags. -/
def endsFlags (c : Char) : Bool :=
  c == ':' || c == ')'

/-- The start of a group with flags, behind the question mark, or flags for the rest. -/
def flaggedStart? (flags : Flags) (s : List Char) : Option (Element × List Char) :=
  match s.dropWhile fun c => !endsFlags c with
  | ':' :: rest =>
      (readFlags? flags true [] (s.takeWhile fun c => !endsFlags c)).map fun inner =>
        (.opens inner none, rest)
  | ')' :: rest =>
      if (s.takeWhile fun c => !endsFlags c).isEmpty then none
      else
        (readFlags? flags true [] (s.takeWhile fun c => !endsFlags c)).map fun flags =>
          (.sets flags, rest)
  | _ => none

theorem flaggedStart?_of_colon {flags : Flags} {s after : List Char}
    (h : (s.dropWhile fun c => !endsFlags c) = ':' :: after) :
    flaggedStart? flags s =
      (readFlags? flags true [] (s.takeWhile fun c => !endsFlags c)).map fun inner =>
        (.opens inner none, after) := by
  rw [flaggedStart?, h]
  rfl

theorem flaggedStart?_of_close {flags : Flags} {s after : List Char}
    (h : (s.dropWhile fun c => !endsFlags c) = ')' :: after) :
    flaggedStart? flags s =
      if (s.takeWhile fun c => !endsFlags c).isEmpty then none
      else
        (readFlags? flags true [] (s.takeWhile fun c => !endsFlags c)).map fun flags =>
          (.sets flags, after) := by
  rw [flaggedStart?, h]
  rfl

def groupStart? (flags : Flags) (s : List Char) : Option (Element × List Char) :=
  match s with
  | '?' :: '=' :: _ => none
  | '?' :: '!' :: _ => none
  | '?' :: '<' :: '=' :: _ => none
  | '?' :: '<' :: '!' :: _ => none
  | '?' :: 'P' :: '<' :: rest => namedStart? flags rest
  | '?' :: '<' :: rest => namedStart? flags rest
  | '?' :: rest => flaggedStart? flags rest
  | rest => some (.opens flags none, rest)

def charElement? (flags : Flags) (c : Char) : Option Element :=
  if !flags.unicode && !isAscii c then none
  else some (.piece (.set (.foldIf flags.ignoreCase (.single c))) 0)

def escapeElement? (flags : Flags) : Escape → Option Element
  | .char c => charElement? flags c
  | .set set => some (.piece (.set (.foldIf flags.ignoreCase set)) 0)
  | .look l => some (.piece (.look l) 0)

/-- The element at a place that means something, and the text after it. -/
def element? (flags : Flags) (s : List Char) : Option (Element × List Char) :=
  match s with
  | [] => none
  | '(' :: rest => groupStart? flags (flags.skip rest)
  | ')' :: rest => some (.closes, rest)
  | '|' :: rest => some (.bar, rest)
  | '[' :: rest => (bracketSet? flags rest).map fun r => (.piece (.set r.1.set) r.1.depth, r.2)
  | '?' :: rest => some (.repeats 0 (some 1), dropLazy rest)
  | '*' :: rest => some (.repeats 0 none, dropLazy rest)
  | '+' :: rest => some (.repeats 1 none, dropLazy rest)
  | '\x7b' :: rest =>
      (counts? flags rest).map fun r => (.repeats r.1.1 r.1.2, dropLazy r.2)
  | '\\' :: rest =>
      (readEscape? flags rest).bind fun r => (escapeElement? flags r.1).map (·, r.2)
  | '.' :: rest => (State.dot? flags).map fun set => (.piece (.set set) 0, rest)
  | '^' :: rest => some (.piece (.look (State.startLook flags)) 0, rest)
  | '$' :: rest => some (.piece (.look (State.endLook flags)) 0, rest)
  | c :: rest => (charElement? flags c).map (·, rest)

/-! ## What an element does -/

namespace State

def setFlags (st : State) (flags : Flags) : State :=
  { st with flags, group := { st.group with current := none :: st.group.current } }

/-- What an element makes of the groups that are open. -/
def after? (st : State) : Element → Option State
  | .opens inner none => some (st.openGroup inner)
  | .opens inner (some name) =>
      if st.names.contains name then none
      else some { st.openGroup inner with names := name :: st.names }
  | .sets flags => some (st.setFlags flags)
  | .closes => st.closeGroup?
  | .bar => some { st with group := st.group.nextAlternative }
  | .piece r depth => some (st.add r depth)
  | .repeats least most => (st.group.repeatLast? least most).map fun group => { st with group }

theorem named_eq (st : State) (s : List Char) :
    readGroup?.named st s =
      (namedStart? st.flags s).bind fun r => (st.after? r.1).map (·, r.2) := by
  fun_cases namedStart? st.flags s with
  | case1 hs =>
      unfold readGroup?.named
      rw [hs]
      rfl
  | case2 c rest hs hname =>
      unfold readGroup?.named
      rw [hs]
      dsimp only
      rw [hname]
      dsimp only [Option.bind_some, after?]
      cases st.names.contains (s.takeWhile (· != '>')) <;> rfl
  | case3 c rest hs hname =>
      unfold readGroup?.named
      rw [hs]
      dsimp only
      rw [Bool.eq_false_iff.mpr hname]
      rfl

theorem readGroup?_eq (st : State) (s : List Char) :
    st.readGroup? s =
      (groupStart? st.flags (st.flags.skip s)).bind fun r => (st.after? r.1).map (·, r.2) := by
  fun_cases readGroup? st s with
  | case1 _ hs | case2 _ hs | case3 _ hs | case4 _ hs =>
      rw [hs]
      rfl
  | case5 rest hs =>
      rw [hs]
      exact named_eq st rest
  | case6 rest h1 h2 hs =>
      rw [hs, groupStart?.eq_6 _ _ h1 h2]
      exact named_eq st rest
  | case7 rest h1 h2 h3 h4 h5 h6 hs isEnd letters after hafter =>
      rw [hs, groupStart?.eq_7 _ _ h1 h2 h3 h4 h5 h6, flaggedStart?_of_colon hafter]
      change (readFlags? st.flags true [] (rest.takeWhile fun c => !endsFlags c)).bind _ = _
      cases readFlags? st.flags true [] (rest.takeWhile fun c => !endsFlags c) <;> rfl
  | case8 rest h1 h2 h3 h4 h5 h6 hs isEnd letters after hafter hempty =>
      change (rest.takeWhile fun c => !endsFlags c).isEmpty = true at hempty
      rw [hs, groupStart?.eq_7 _ _ h1 h2 h3 h4 h5 h6, flaggedStart?_of_close hafter, if_pos hempty]
      rfl
  | case9 rest h1 h2 h3 h4 h5 h6 hs isEnd letters after hafter hempty =>
      change ¬(rest.takeWhile fun c => !endsFlags c).isEmpty = true at hempty
      rw [hs, groupStart?.eq_7 _ _ h1 h2 h3 h4 h5 h6, flaggedStart?_of_close hafter, if_neg hempty]
      change (readFlags? st.flags true [] (rest.takeWhile fun c => !endsFlags c)).bind _ = _
      cases readFlags? st.flags true [] (rest.takeWhile fun c => !endsFlags c) <;> rfl
  | case10 rest h1 h2 h3 h4 h5 h6 hs isEnd hcolon hclose =>
      rw [hs, groupStart?.eq_7 _ _ h1 h2 h3 h4 h5 h6]
      unfold flaggedStart?
      split
      · rename_i after hafter
        exact (hcolon after hafter).elim
      · rename_i after hafter
        exact (hclose after hafter).elim
      · rfl
  | case11 h1 h2 h3 h4 h5 h6 h7 =>
      rw [groupStart?.eq_8 _ _ h1 h2 h3 h4 h5 h6 h7]
      rfl

/-- Repeating the last piece is what the element of a repetition does. -/
theorem quantify_eq (st : State) (least : Nat) (most : Option Nat) (s : List Char) :
    step?.quantify st (some ((least, most), s)) =
      (st.after? (.repeats least most)).map (·, dropLazy s) := by
  change ((st.group.repeatLast? least most).bind fun group => _) = _
  dsimp only [after?]
  cases st.group.repeatLast? least most <;> rfl

theorem addChar?_eq (st : State) (c : Char) :
    st.addChar? c = (charElement? st.flags c).bind st.after? := by
  unfold addChar? charElement?
  split <;> rfl

/-- A step reads an element and does what it says. -/
theorem step?_eq (st : State) (s : List Char) :
    st.step? s = (element? st.flags s).bind fun r => (st.after? r.1).map (·, r.2) := by
  fun_cases element? st.flags s with
  | case1 | case3 | case4 | case12 | case13 => rfl
  | case2 rest => exact readGroup?_eq st rest
  | case5 rest =>
      rw [step?.eq_5]
      cases bracketSet? st.flags rest <;> rfl
  | case6 rest | case7 rest | case8 rest => exact quantify_eq st _ _ rest
  | case9 rest =>
      change step?.quantify st (counts? st.flags rest) = _
      cases counts? st.flags rest with
      | none => rfl
      | some r => exact quantify_eq st r.1.1 r.1.2 r.2
  | case10 rest =>
      change ((readEscape? st.flags rest).bind fun r => _) = _
      cases readEscape? st.flags rest with
      | none => rfl
      | some r =>
          obtain ⟨escape, after⟩ := r
          cases escape with
          | char c =>
              change ((st.addChar? c).bind fun st => some (st, after)) = _
              rw [addChar?_eq]
              change _ = ((charElement? st.flags c).map (·, after)).bind _
              cases charElement? st.flags c with
              | none => rfl
              | some e =>
                  change (st.after? e).bind _ = (st.after? e).map _
                  cases st.after? e <;> rfl
          | set set => rfl
          | look l => rfl
  | case11 rest =>
      change (dot? st.flags).map _ = _
      cases dot? st.flags <;> rfl
  | case14 c rest h1 h2 h3 h4 h5 h6 h7 h8 h9 h10 h11 h12 =>
      rw [step?.eq_14 _ _ _ h1 h2 h3 h4 h5 h6 h7 h8 h9 h10 h11 h12, addChar?_eq]
      cases charElement? st.flags c <;> rfl

end State

end Pattern

end StylePrune
