import StylePrune.Css.Rule.Reader
import StylePrune.Proofs.Css.Carrying

/-!
# Conditions of containers

What is printed for a condition of a container ends with a closing parenthesis, since every
test in it stands in parentheses or is a function.
-/

namespace StylePrune

namespace Css

/-- The text ends with a closing parenthesis, wherever its references are written. -/
def EndsClosed (p : Printed) : Prop :=
  ∀ base, ∃ t, (p.write base).toList = t ++ [')']

theorem endsClosed_append (p : Printed) {q : Printed} (h : EndsClosed q) : EndsClosed (p ++ q) := by
  intro base
  obtain ⟨t, ht⟩ := h base
  exact ⟨(p.write base).toList ++ t, by
    rw [Printed.write_append, String.toList_append, ht, List.append_assoc]⟩

theorem endsClosed_paren (p : Printed) : EndsClosed (p ++ [.text ")"]) :=
  endsClosed_append p fun _ => ⟨[], by simp⟩

theorem endsClosed_joinWith (separator : String) {ps : List Printed} (hne : ps ≠ [])
    (h : ∀ p ∈ ps, EndsClosed p) : EndsClosed (Printed.joinWith separator ps) := by
  induction ps with
  | nil => exact absurd rfl hne
  | cons p rest ih =>
      obtain ⟨hp, hrest⟩ := List.forall_mem_cons.mp h
      cases rest with
      | nil => exact hp
      | cons q rest =>
          rw [Printed.joinWith]
          · exact endsClosed_append p (endsClosed_append [.text separator]
              (ih (List.cons_ne_nil q rest) hrest))
          · simp

namespace Condition

theorem endsClosed_bracketed (needed : Bool) {p : Printed} (h : EndsClosed p) :
    EndsClosed (bracketed needed p) := by
  cases needed with
  | false => exact h
  | true => exact endsClosed_paren (.text "(" :: p)

/-- The condition is printed up to a closing parenthesis. -/
def IsClosed (c : Condition) : Prop :=
  EndsClosed (c.print .comparisons)

theorem isClosed_feature (f : Feature) : (feature f).IsClosed := by
  unfold IsClosed
  rw [print]
  cases f with
  | present name => exact fun _ => ⟨("(" ++ name).toList, by simp [Feature.print]⟩
  | plain | range | interval => exact endsClosed_paren _

theorem IsClosed.not {c : Condition} (h : c.IsClosed) : c.not.IsClosed := by
  unfold IsClosed
  rw [print]
  exact endsClosed_append [.text "not "] (endsClosed_bracketed _ h)

theorem isClosed_join (by_ : Connective) {cs : List Condition} (hne : cs ≠ [])
    (h : ∀ c ∈ cs, c.IsClosed) : (join by_ cs).IsClosed := by
  have hparts : ∀ p ∈ printAll .comparisons by_ cs, EndsClosed p := by
    clear hne
    induction cs with
    | nil => nofun
    | cons c rest ih =>
        obtain ⟨hc, hrest⟩ := List.forall_mem_cons.mp h
        rw [printAll]
        exact List.forall_mem_cons.mpr ⟨endsClosed_bracketed _ hc, ih hrest⟩
  unfold IsClosed
  rw [print]
  refine endsClosed_joinWith _ ?_ hparts
  obtain ⟨c, rest, rfl⟩ := List.exists_cons_of_ne_nil hne
  rw [printAll]
  exact List.cons_ne_nil _ _

end Condition

namespace Reader

/-- Every value that is read has the property. -/
def Yields {α : Type} (P : α → Prop) (r : Reader α) : Prop :=
  ∀ ⦃s a rest⦄, r s = .ok (a, rest) → P a

variable {α β : Type} {P : β → Prop} {Q : α → Prop}

theorem Yields.bind {r : Reader α} {f : α → Reader β} (h : Yields Q r)
    (hf : ∀ a, Q a → Yields P (f a)) : Yields P (r >>= f) := by
  intro s b rest hb
  obtain ⟨a, s', ha, hb⟩ := exists_of_bind_eq_ok hb
  exact hf a (h ha) hb

theorem Yields.trivial (r : Reader α) : Yields (fun _ => True) r :=
  fun _ _ _ _ => True.intro

theorem Yields.then {r : Reader α} {f : α → Reader β} (hf : ∀ a, Yields P (f a)) :
    Yields P (r >>= f) :=
  (Yields.trivial r).bind fun a _ => hf a

theorem Yields.pure {b : β} (h : P b) : Yields P (pure b : Reader β) := by
  rintro s a rest ⟨⟩
  exact h

theorem Yields.fail : Yields P (fail : Reader β) := by
  rintro s a rest ⟨⟩

theorem Yields.firstOf {rs : List (Reader β)} (h : ∀ r ∈ rs, Yields P r) :
    Yields P (firstOf rs) := by
  induction rs with
  | nil => exact .fail
  | cons r more ih =>
      obtain ⟨hr, hmore⟩ := List.forall_mem_cons.mp h
      intro s b rest hb
      rw [Reader.firstOf] at hb
      dsimp only at hb
      split at hb
      · rename_i x hx
        obtain rfl : x = (b, rest) := by simpa using hb
        exact hr hx
      · exact ih hmore hb

/-- What is read of all of some components has the property. -/
theorem Yields.of_all {r : Reader β} (h : Yields P r) {items : List Component} {b : β}
    (hb : all r items = .ok b) : P b := by
  rw [all] at hb
  split at hb
  · cases hb
  · rename_i a rest ha
    split at hb
    · obtain rfl : a = b := by simpa using hb
      exact h ha
    · cases hb

theorem Yields.of_all? {r : Reader β} (h : Yields P r) {items : List Component} {b : β}
    (hb : all? r items = some b) : P b := by
  rw [all?] at hb
  cases ha : all r items with
  | error e =>
      rw [ha] at hb
      cases hb
  | ok a =>
      rw [ha] at hb
      obtain rfl := Option.some.inj hb
      exact h.of_all ha

theorem Yields.inside {r : Reader β} (h : Yields P r) (items : List Component) :
    Yields P (inside r items) := by
  intro s b rest hb
  rw [Reader.inside] at hb
  split at hb
  · rename_i a ha
    obtain ⟨rfl, -⟩ : a = b ∧ s = rest := by simpa using hb
    exact h.of_all ha
  · cases hb

structure ClosedKind (kind : ConditionKind) : Prop where
  feature : Yields Condition.IsClosed kind.feature
  call : ∀ name items, Yields Condition.IsClosed (kind.call name items)

/-- The readers of conditions with this fuel yield closed ones. -/
structure YieldsClosed (kind : ConditionKind) (fuel : Nat) : Prop where
  part : Yields Condition.IsClosed (conditionPart kind fuel)
  tail : ∀ by_, Yields (fun cs => ∀ c ∈ cs, c.IsClosed) (conditionTail kind by_ fuel)
  condition : ∀ any, Yields Condition.IsClosed (condition kind any fuel)

theorem yieldsClosed {kind : ConditionKind} (h : ClosedKind kind) (fuel : Nat) :
    YieldsClosed kind fuel := by
  induction fuel with
  | zero => exact ⟨.fail, fun _ => .fail, fun _ => .fail⟩
  | succ fuel ih =>
      refine ⟨?_, fun by_ => ?_, fun any => ?_⟩
      · refine .then fun c => ?_
        split
        · have hfeature := List.forall_mem_singleton.mpr h.feature
          exact .inside (.firstOf (List.forall_mem_cons.mpr ⟨ih.condition true, hfeature⟩)) _
        · exact h.call _ _
        · exact .fail
      · refine .then fun more => ?_
        split
        · exact .pure nofun
        · refine ih.part.bind fun c hc => (ih.tail by_).bind fun cs hcs => .pure ?_
          exact List.forall_mem_cons.mpr ⟨hc, hcs⟩
      · refine .then fun negated => ?_
        split
        · exact ih.part.bind fun c hc => .pure hc.not
        · refine ih.part.bind fun first hfirst => .then fun more => ?_
          split
          · exact .pure hfirst
          · split
            · exact .fail
            · refine ih.part.bind fun second hsecond => (ih.tail _).bind fun cs hcs => .pure ?_
              refine Condition.isClosed_join _ (List.cons_ne_nil _ _) ?_
              exact List.forall_mem_cons.mpr ⟨hfirst, List.forall_mem_cons.mpr ⟨hsecond, hcs⟩⟩

theorem closedKind_container : ClosedKind ⟨featureTest containerFeatures, styleCall⟩ where
  feature := .then fun f => .pure (Condition.isClosed_feature f)
  call name items := by
    dsimp only
    unfold styleCall
    split
    · refine .then fun c => .pure ?_
      unfold Condition.IsClosed
      rw [Condition.print]
      exact endsClosed_paren _
    · exact .fail

theorem yields_containerCondition : Yields Condition.IsClosed containerCondition := by
  intro s c rest hc
  exact (yieldsClosed closedKind_container _).condition true hc

/-- The condition of a container that is read is printed up to a closing parenthesis. -/
theorem yields_containerQuery :
    Yields (fun q : Option String × Condition => q.2.IsClosed) containerQuery :=
  .then fun _ => yields_containerCondition.bind fun _ hc => .pure hc

end Reader

/-! ## Rules that are read -/

/-- The condition of a container, if one is read, is printed up to a closing parenthesis. -/
def ReadsClosed (o : Option Rule) : Prop :=
  ∀ name condition rules, o = some (.container name condition rules) → condition.IsClosed

namespace ReadsClosed

theorem none : ReadsClosed none := nofun

theorem bind {α : Type} {o : Option α} {f : α → Option Rule}
    (h : ∀ a, o = some a → ReadsClosed (f a)) : ReadsClosed (o >>= f) := by
  intro name condition rules heq
  obtain ⟨a, ha, heq⟩ := Option.bind_eq_some_iff.mp heq
  exact h a ha name condition rules heq

theorem andThen {α : Type} {o : Option α} {f : α → Option Rule} (h : ∀ a, ReadsClosed (f a)) :
    ReadsClosed (o >>= f) :=
  bind fun a _ => h a

theorem other (text : Printed) : ReadsClosed (some (.other text)) := nofun

theorem declarationRule (head : String) (block : List Component) :
    ReadsClosed (Reader.declarationRule head block) :=
  .andThen fun _ => .other _

theorem unknownRule (r : AtRule) : ReadsClosed (Reader.unknownRule r) := by
  refine .andThen fun head => ?_
  dsimp only
  split
  · exact .other _
  · exact .andThen fun _ => .other _

theorem closedRule {r : AtRule} {o : Option Rule} (h : Reader.closedRule r = some o) :
    ReadsClosed o := by
  unfold Reader.closedRule at h
  dsimp only at h
  split at h
  · obtain rfl := Option.some.inj h
    exact .andThen fun _ => .andThen fun _ => .other _
  · obtain rfl := Option.some.inj h
    exact .andThen fun _ => .andThen fun _ => .other _
  · obtain rfl := Option.some.inj h
    exact .andThen fun _ => .andThen fun _ => .other _
  · obtain rfl := Option.some.inj h
    exact .andThen fun _ => .andThen fun _ => .andThen fun _ => .other _
  · obtain rfl := Option.some.inj h
    exact .andThen fun _ => .andThen fun _ => .declarationRule _ _
  · obtain rfl := Option.some.inj h
    exact .andThen fun _ => .andThen fun _ => .declarationRule _ _
  · obtain rfl := Option.some.inj h
    exact .andThen fun _ => .andThen fun _ => .declarationRule _ _
  · obtain rfl := Option.some.inj h
    exact .andThen fun _ => .andThen fun _ => .other _
  · split at h
    · obtain rfl := Option.some.inj h
      exact .andThen fun _ => .andThen fun _ => .other _
    · cases h

/-- Every other rule that holds rules is no container. -/
theorem nestedRule (inStyle : Bool) (fuel : Nat) (r : AtRule) :
    ReadsClosed (Reader.nestedRule inStyle fuel r) := by
  cases fuel with
  | zero => exact .none
  | succ fuel =>
      rw [Reader.nestedRule]
      split
      · exact .andThen fun _ => .andThen fun _ => .andThen fun _ => nofun
      · exact .andThen fun _ => .andThen fun _ => .andThen fun _ => nofun
      · split
        · split
          · exact .none
          · exact .andThen fun _ => .other _
        · refine .andThen fun names => .andThen fun _ => ?_
          split
          · nofun
          · nofun
          · nofun
      · refine .bind fun q hq => .andThen fun _ => .andThen fun _ => ?_
        rintro name condition rules ⟨⟩
        exact Reader.yields_containerQuery.of_all? hq
      · exact .andThen fun _ => .andThen fun _ => .andThen fun _ => nofun
      · exact .andThen fun _ => .andThen fun _ => .andThen fun _ => nofun
      · exact .andThen fun _ => .andThen fun _ => .andThen fun _ => nofun
      · split
        · refine .andThen fun _ => ?_
          split
          · exact .andThen fun _ => .andThen fun _ => nofun
          · exact .none
        · exact .unknownRule r
      · split
        · rename_i o ho
          split
          · exact .none
          · exact .closedRule ho
        · exact .unknownRule r

end ReadsClosed

end Css

end StylePrune
