import StylePrune.Proofs.Css.ClosedRule

/-!
# The references that a stylesheet declares

The targets of the references in the declarations of a stylesheet, at any depth of its rules,
and in the descriptors of its fonts; those in the conditions of media and containers may be
counted too.  Nothing else that stands before a block, such as a selector, declares anything,
and neither does a rule without a block, such as an import.  Every target that is declared is in
the rules that are read, as often as it is declared.
-/

namespace StylePrune

namespace Css

open scoped List
open Component (targetsOf)

namespace Reader

/-! ## Declared targets -/

/-- The at-rules whose block holds other rules; `@nest` is one inside style rules. -/
def holdsRules (inStyle : Bool) (name : String) : Bool :=
  ["media", "supports", "layer", "container", "-moz-document", "starting-style",
    "scope"].contains name || (inStyle && name == "nest")

mutual

/-- The targets that an at-rule declares, at most `fuel` parts deep. -/
def declaredInRule (conditions inStyle : Bool) : Nat → AtRule → List String
  | 0, _ => []
  | fuel + 1, r =>
      match r.block with
      | none => []
      | some items =>
          if holdsRules inStyle (Text.lower r.name) then
            onlyIf conditions (conditionTargets (Text.lower r.name) r.head) ++
              declaredIn conditions inStyle fuel items
          else closedTargets (Text.lower r.name) items

/--
The targets that the content of a block declares, at most `fuel` parts deep.  What can be read
as a declaration inside a style rule is one; anything else has a block of its own.
-/
def declaredIn (conditions inStyle : Bool) : Nat → List Component → List String
  | 0, _ => []
  | fuel + 1, s =>
      match skipBlanks s with
      | [] => []
      | .token .semicolon _ :: rest => declaredIn conditions inStyle fuel rest
      | .token (.atKeyword name) _ :: rest =>
          declaredInRule conditions inStyle fuel (atRule name rest).1 ++
            declaredIn conditions inStyle fuel (atRule name rest).2
      | s =>
          if inStyle && (all? declaration (cutAtSemicolon s).1).isSome then
            targetsOf (cutAtSemicolon s).1 ++
              declaredIn conditions inStyle fuel (cutAtSemicolon s).2
          else
            match s.dropWhile (!endsHead ·) with
            | .block .curly items _ :: rest =>
                declaredIn conditions true fuel items ++ declaredIn conditions inStyle fuel rest
            | _ => []

end

def declaredAtTop (conditions : Bool) (fuel : Nat) (r : AtRule) : List String :=
  match Text.lower r.name with
  | "property" => (r.block.map registeredTargets).getD []
  | _ => declaredInRule conditions false fuel r

def declaredFrom (conditions : Bool) : Nat → List Component → List String
  | 0, _ => []
  | fuel + 1, s =>
      match s.dropWhile isFiller with
      | [] => []
      | .token (.atKeyword name) _ :: rest =>
          declaredAtTop conditions fuel (atRule name rest).1 ++
            declaredFrom conditions fuel (atRule name rest).2
      | s =>
          match s.dropWhile (!endsHead ·) with
          | .block .curly items _ :: rest =>
              declaredIn conditions true fuel items ++ declaredFrom conditions fuel rest
          | _ => []

/--
The targets that a stylesheet declares, once for each reference, in at most `fuel` parts, with
those in conditions if `conditions` holds.
-/
def declared (conditions : Bool) (fuel : Nat) (items : List Component) : List String :=
  declaredFrom conditions fuel (skipCharset items)

/-! ## What is read has the targets -/

variable {conditions : Bool}

def bodyTargets (conditions : Bool) (body : List Declaration × List Rule) : List String :=
  body.1.flatMap (fun d => Printed.targets d.value) ++ Rule.targetsAll conditions body.2

/-- Declarations have the same targets in a rule of their own. -/
theorem targetsAll_withDeclarations (body : List Declaration × List Rule) :
    Rule.targetsAll conditions (withDeclarations body) = bodyTargets conditions body := by
  rw [withDeclarations, bodyTargets]
  split
  · rename_i hempty
    rw [List.isEmpty_iff.mp hempty]
    rfl
  · rw [Rule.targetsAll, Rule.targets, Rule.targetsAll, List.append_nil]

/-- A style rule has the declarations and the rules of its block. -/
theorem styleRule_eq_some {inStyle : Bool} {fuel : Nat} {s rest : List Component} {rule : Rule}
    (h : styleRule inStyle fuel s = some (rule, rest)) :
    ∃ fuel' items closed selectors body,
      s.dropWhile (!endsHead ·) = .block .curly items closed :: rest ∧
      ruleBody true fuel' items = some body ∧ rule = .style selectors body.1 body.2 := by
  cases fuel with
  | zero => cases h
  | succ fuel =>
      rw [styleRule] at h
      split at h
      · rename_i items closed rest' hdrop
        obtain ⟨selectors, -, h⟩ := Option.bind_eq_some_iff.mp h
        obtain ⟨body, hbody, h⟩ := Option.bind_eq_some_iff.mp h
        cases h
        exact ⟨fuel, items, closed, selectors, body, hdrop, hbody, rfl⟩
      · cases h

/-- A rule read as a head and a body has what every rule made of the two has. -/
theorem exists_body {α : Type} {head : Option α} {read : Option (List Declaration × List Rule)}
    {make : α → List Declaration × List Rule → Rule} {rule : Rule} {declared : List String}
    (hmake : ∀ a, head = some a → ∀ body,
      declared ++ bodyTargets conditions body <+~ (make a body).targets conditions)
    (h : (head.bind fun a => read.bind fun body => some (make a body)) = some rule) :
    ∃ body, read = some body ∧
      declared ++ bodyTargets conditions body <+~ rule.targets conditions := by
  obtain ⟨a, ha, h⟩ := Option.bind_eq_some_iff.mp h
  obtain ⟨body, hbody, h⟩ := Option.bind_eq_some_iff.mp h
  cases h
  exact ⟨body, hbody, hmake a ha body⟩

/-- Rules without a condition that counts have the targets of their block. -/
theorem subperm_of_targets_eq {name : String} {head : List Component} {rule : Rule}
    {body : List Declaration × List Rule} (hname : conditionTargets name head = [])
    (h : rule.targets conditions = Rule.targetsAll conditions (withDeclarations body)) :
    onlyIf conditions (conditionTargets name head) ++ bodyTargets conditions body <+~
      rule.targets conditions := by
  rw [hname, h, targetsAll_withDeclarations]
  exact (onlyIf_subperm conditions []).append (.refl _)

/-- A rule that holds other rules has its condition and its block, and any other its block. -/
theorem nestedRule_eq_some {inStyle : Bool} {fuel : Nat} {r : AtRule} {rule : Rule}
    {items : List Component}
    (h : nestedRule inStyle (fuel + 1) r = some rule) (hblock : r.block = some items) :
    (holdsRules inStyle (Text.lower r.name) = true ∧
      ∃ body, ruleBody inStyle fuel items = some body ∧
        onlyIf conditions (conditionTargets (Text.lower r.name) r.head) ++
          bodyTargets conditions body <+~ rule.targets conditions) ∨
    (holdsRules inStyle (Text.lower r.name) = false ∧
      closedTargets (Text.lower r.name) items <+~ rule.targets conditions) := by
  rw [nestedRule] at h
  simp only [hblock, Option.bind_eq_bind, Option.bind_some] at h
  split at h
  · rename_i hname
    rw [hname]
    refine .inl ⟨rfl, exists_body (fun queries hqueries body => ?_) h⟩
    rw [Rule.targets, targetsAll_withDeclarations]
    exact (onlyIf_subperm_onlyIf (conditionTargets_of_media hqueries) _).append (.refl _)
  · rename_i hname
    rw [hname]
    exact .inl ⟨rfl, exists_body (fun _ _ _ => subperm_of_targets_eq rfl (by rw [Rule.targets])) h⟩
  · rename_i hname
    rw [hname]
    obtain ⟨names, -, h⟩ := Option.bind_eq_some_iff.mp h
    obtain ⟨body, hbody, h⟩ := Option.bind_eq_some_iff.mp h
    refine .inl ⟨rfl, body, hbody, ?_⟩
    split at h
    · cases h
      exact subperm_of_targets_eq rfl (by rw [Rule.targets])
    · cases h
      exact subperm_of_targets_eq rfl (by rw [Rule.targets])
    · cases h
  · rename_i hname
    rw [hname]
    refine .inl ⟨rfl, exists_body (fun query hquery body => ?_) h⟩
    rw [Rule.targets, targetsAll_withDeclarations]
    exact (onlyIf_subperm_onlyIf (conditionTargets_of_container hquery) _).append (.refl _)
  · rename_i hname
    rw [hname]
    exact .inl ⟨rfl, exists_body (fun _ _ _ => subperm_of_targets_eq rfl (by rw [Rule.targets])) h⟩
  · rename_i hname
    rw [hname]
    exact .inl ⟨rfl, exists_body (fun _ _ _ => subperm_of_targets_eq rfl (by rw [Rule.targets])) h⟩
  · rename_i hname
    rw [hname]
    exact .inl ⟨rfl, exists_body (fun _ _ _ => subperm_of_targets_eq rfl (by rw [Rule.targets])) h⟩
  · rename_i hname
    rw [hname]
    split at h
    · rename_i hstyle
      obtain ⟨selectors, -, h⟩ := Option.bind_eq_some_iff.mp h
      split at h
      · obtain ⟨body, hbody, h⟩ := Option.bind_eq_some_iff.mp h
        cases h
        subst hstyle
        refine .inl ⟨rfl, body, hbody, ?_⟩
        rw [Rule.targets]
        exact (onlyIf_subperm conditions []).append (.refl _)
      · cases h
    · rename_i hstyle
      rw [Bool.not_eq_true] at hstyle
      subst hstyle
      exact .inr ⟨rfl, targets_of_unknownRule h hblock conditions⟩
  · have hholds : holdsRules inStyle (Text.lower r.name) = false := by
      simp_all [holdsRules]
    refine .inr ⟨hholds, ?_⟩
    split at h
    · rename_i closed hclosed
      split at h
      · cases h
      · rw [h] at hclosed
        exact closedTargets_subperm_of_closedRule hclosed hblock conditions
    · rename_i hclosed
      rw [closedTargets_of_closedRule_eq_none hclosed]
      exact targets_of_unknownRule h hblock conditions

/-! ## Blocks -/

theorem bodyTargets_cons {d : Declaration} {ds : List Declaration} {rules : List Rule} :
    bodyTargets conditions (d :: ds, rules) =
      Printed.targets d.value ++ bodyTargets conditions (ds, rules) := by
  rw [bodyTargets, List.flatMap_cons, List.append_assoc]
  rfl

theorem bodyTargets_rule_subperm {rule : Rule} {ds : List Declaration} {rules : List Rule} :
    rule.targets conditions ++ bodyTargets conditions (ds, rules) <+~
      bodyTargets conditions (ds, rule :: rules) := by
  rw [bodyTargets, bodyTargets, Rule.targetsAll]
  exact (List.perm_append_comm_assoc _ _ _).subperm

/-- What is declared, at most `fuel` parts deep, is in what is read. -/
structure ReadsDeclared (conditions : Bool) (fuel : Nat) : Prop where
  body : ∀ {inStyle : Bool} {m : Nat} {s : List Component} {body : List Declaration × List Rule},
    ruleBody inStyle m s = some body →
      declaredIn conditions inStyle fuel s <+~ bodyTargets conditions body
  rule : ∀ {inStyle : Bool} {m : Nat} {r : AtRule} {rule : Rule},
    nestedRule inStyle m r = some rule →
      declaredInRule conditions inStyle fuel r <+~ rule.targets conditions

variable {fuel : Nat}

theorem ReadsDeclared.rule_succ (h : ReadsDeclared conditions fuel) {inStyle : Bool} {m : Nat}
    {r : AtRule} {rule : Rule} (hrule : nestedRule inStyle m r = some rule) :
    declaredInRule conditions inStyle (fuel + 1) r <+~ rule.targets conditions := by
  cases m with
  | zero => cases hrule
  | succ m =>
      rw [declaredInRule]
      split
      · exact List.nil_subperm
      · rename_i items hblock
        rcases nestedRule_eq_some hrule hblock with ⟨hholds, body, hbody, hrule⟩ | ⟨hholds, hrule⟩
        · rw [if_pos hholds]
          exact (List.Subperm.append (.refl _) (h.body hbody)).trans hrule
        · rw [if_neg (Bool.eq_false_iff.mp hholds)]
          exact hrule

/-- A style rule has what its block declares. -/
theorem ReadsDeclared.styleRule (h : ReadsDeclared conditions fuel) {inStyle : Bool} {m : Nat}
    {s rest : List Component} {rule : Rule} (hrule : styleRule inStyle m s = some (rule, rest)) :
    ∃ items closed, s.dropWhile (!endsHead ·) = .block .curly items closed :: rest ∧
      declaredIn conditions true fuel items <+~ rule.targets conditions := by
  obtain ⟨m', items, closed, selectors, body, hdrop, hbody, rfl⟩ := styleRule_eq_some hrule
  refine ⟨items, closed, hdrop, ?_⟩
  rw [Rule.targets]
  exact h.body hbody

/-- A declaration is read where one is declared, and a style rule otherwise. -/
theorem ReadsDeclared.part (h : ReadsDeclared conditions fuel) {inStyle : Bool} {m : Nat}
    {s part rest : List Component} {body : List Declaration × List Rule}
    (hbody : (match if inStyle then all? declaration part else none with
      | some d => do
          let (ds, rules) ← ruleBody inStyle m rest
          return (d :: ds, rules)
      | none => do
          let (rule, rest) ← Reader.styleRule inStyle m s
          let (ds, rules) ← ruleBody inStyle m rest
          return (ds, rule :: rules)) = some body) :
    (if inStyle && (all? declaration part).isSome then
      targetsOf part ++ declaredIn conditions inStyle fuel rest
    else
      match s.dropWhile (!endsHead ·) with
      | .block .curly items _ :: rest =>
          declaredIn conditions true fuel items ++ declaredIn conditions inStyle fuel rest
      | _ => []) <+~ bodyTargets conditions body := by
  split at hbody
  · rename_i d hd
    obtain ⟨body', hmore, hbody⟩ := Option.bind_eq_some_iff.mp hbody
    cases hbody
    split at hd
    · rename_i hstyle
      subst hstyle
      rw [hd, bodyTargets_cons]
      have hpart : targetsOf part <+~ Printed.targets d.value := carries_declaration.of_all? hd
      exact List.Subperm.append hpart (h.body hmore)
    · cases hd
  · rename_i hd
    obtain ⟨⟨rule, rest'⟩, hrule, hbody⟩ := Option.bind_eq_some_iff.mp hbody
    obtain ⟨body', hmore, hbody⟩ := Option.bind_eq_some_iff.mp hbody
    cases hbody
    obtain ⟨items, closed, hdrop, hitems⟩ := h.styleRule hrule
    have hno : (inStyle && (all? declaration part).isSome) = false := by
      cases inStyle <;> simp_all
    rw [hno, hdrop]
    exact (List.Subperm.append hitems (h.body hmore)).trans bodyTargets_rule_subperm

theorem ReadsDeclared.body_succ (h : ReadsDeclared conditions fuel) {inStyle : Bool} {m : Nat}
    {s : List Component} {body : List Declaration × List Rule}
    (hbody : ruleBody inStyle m s = some body) :
    declaredIn conditions inStyle (fuel + 1) s <+~ bodyTargets conditions body := by
  cases m with
  | zero => cases hbody
  | succ m =>
      rw [ruleBody] at hbody
      split at hbody
      · rename_i hskip
        rw [declaredIn, hskip]
        exact List.nil_subperm
      · rename_i text rest hskip
        rw [declaredIn, hskip]
        exact h.body hbody
      · rename_i name text rest hskip
        rw [declaredIn, hskip]
        obtain ⟨rule, hrule, hbody⟩ := Option.bind_eq_some_iff.mp hbody
        obtain ⟨body', hmore, hbody⟩ := Option.bind_eq_some_iff.mp hbody
        cases hbody
        exact (List.Subperm.append (h.rule hrule) (h.body hmore)).trans
          bodyTargets_rule_subperm
      · rename_i hend hsemicolon hat
        rw [declaredIn]
        split
        · exact absurd ‹_› hend
        · exact absurd ‹_› (hsemicolon _ _)
        · exact absurd ‹_› (hat _ _ _)
        · exact h.part hbody

/-- What one step has read, and the rest. -/
theorem readsDeclared (conditions : Bool) (fuel : Nat) : ReadsDeclared conditions fuel := by
  induction fuel with
  | zero => exact ⟨fun _ => List.nil_subperm, fun _ => List.nil_subperm⟩
  | succ fuel ih => exact ⟨ih.body_succ, ih.rule_succ⟩

/-! ## Stylesheets -/

theorem declaredAtTop_of_block_eq_none {r : AtRule} (h : r.block = none) (fuel : Nat) :
    declaredAtTop conditions fuel r = [] := by
  unfold declaredAtTop
  split
  · rw [h]
    rfl
  · cases fuel with
    | zero => rfl
    | succ fuel => rw [declaredInRule, h]

theorem declaredAtTop_subperm {p p' : Progress} {fuel m : Nat} {r : AtRule} {rule : Option Rule}
    (h : topRule p m r = some (rule, p')) :
    declaredAtTop conditions fuel r <+~ Rule.targetsAll conditions rule.toList := by
  cases hblock : r.block with
  | none =>
      rw [declaredAtTop_of_block_eq_none hblock]
      exact List.nil_subperm
  | some items =>
      rw [topRule, hblock] at h
      -- With a block, only a registered property is no rule that may be inside others.
      split at h
      any_goals contradiction
      · rename_i hname hsome
        obtain rfl := Option.some.inj hsome
        obtain ⟨name, -, h⟩ := Option.bind_eq_some_iff.mp h
        obtain ⟨body, hbody, h⟩ := Option.bind_eq_some_iff.mp h
        cases h
        rw [declaredAtTop, hname, hblock]
        simpa [Rule.targetsAll, Rule.targets] using registeredTargets_subperm hbody
      · rename_i hproperty _ _ _
        obtain ⟨rule', hrule, h⟩ := Option.bind_eq_some_iff.mp h
        cases h
        unfold declaredAtTop
        split
        · exact absurd ‹_› hproperty
        · simpa [Rule.targetsAll] using (readsDeclared conditions fuel).rule hrule

theorem declaredFrom_subperm {fuel m count : Nat} {p : Progress} {s : List Component}
    {rules : List Rule} (h : rulesFrom m count p s = some rules) :
    declaredFrom conditions fuel s <+~ Rule.targetsAll conditions rules := by
  induction fuel generalizing count p s rules with
  | zero => exact List.nil_subperm
  | succ fuel ih =>
      cases count with
      | zero => cases h
      | succ count =>
          rw [rulesFrom] at h
          split at h
          · rename_i hdrop
            rw [declaredFrom, hdrop]
            exact List.nil_subperm
          · rename_i name text rest hdrop
            rw [declaredFrom, hdrop]
            obtain ⟨⟨rule, p'⟩, hrule, h⟩ := Option.bind_eq_some_iff.mp h
            obtain ⟨more, hmore, h⟩ := Option.bind_eq_some_iff.mp h
            cases h
            rw [Rule.targetsAll_append]
            exact List.Subperm.append (declaredAtTop_subperm hrule) (ih hmore)
          · rename_i hend hat
            rw [declaredFrom]
            split
            · exact absurd ‹_› hend
            · exact absurd ‹_› (hat _ _ _)
            · obtain ⟨⟨rule, rest⟩, hrule, h⟩ := Option.bind_eq_some_iff.mp h
              obtain ⟨more, hmore, h⟩ := Option.bind_eq_some_iff.mp h
              cases h
              have hread := readsDeclared conditions fuel
              obtain ⟨items, closed, hblock, hitems⟩ := hread.styleRule hrule
              rw [hblock, Rule.targetsAll]
              exact List.Subperm.append hitems (ih hmore)

theorem declared_subperm (conditions : Bool) {items : List Component} {rules : List Rule}
    (h : rules? items = some rules) (fuel : Nat) :
    declared conditions fuel items <+~ Rule.targetsAll conditions rules :=
  declaredFrom_subperm h

end Reader

end Css

end StylePrune
