import Mathlib.Data.List.Forall2
import StylePrune.Css.Value.AnimationName
import StylePrune.Css.Value.Family
import StylePrune.Css.Value.Image
import StylePrune.Proofs.Css.Measures

/-!
# Values carry their references

Lists, sides and parts in any order carry the references of their parts.  Positions, gradients
and fonts have none; an image has the one that it is.
-/

namespace StylePrune

namespace Css

namespace Reader

open scoped List
open Component (targetsOf)

/-! ## Words and lists -/

theorem silent_words (ws : List String) : Silent (words ws) :=
  (silent_oneOf ws).bind fun _ => .pure

theorem silent_measureText {r : Reader Measure} (h : Silent r) : Silent (measureText r) :=
  h.bind fun _ => .pure

theorem silent_lengthText : Silent lengthText :=
  silent_measureText silent_length

theorem silent_lengthPercentageText : Silent lengthPercentageText :=
  silent_measureText silent_lengthPercentage

theorem silent_lengthOr (ws : List String) : Silent (lengthOr ws) :=
  .orElse (silent_words ws) (.orElse silent_lengthPercentageText .fail)

theorem silent_numberText : Silent numberText :=
  silent_number.bind fun _ => .pure

theorem silent_integerText : Silent integerText :=
  silent_integer.bind fun _ => .pure

theorem silent_colorText : Silent colorText :=
  silent_color.bind fun _ => .pure

theorem carries_urlPiece : Carries [] Printed.targets urlPiece :=
  carries_url.bind fun _ => .pure_of_subperm (List.Subperm.refl _)

theorem silent_customIdent : Silent customIdent :=
  silent_ident.bind fun _ => .ite .fail .pure

theorem silent_customIdentText : Silent customIdentText :=
  silent_customIdent.bind fun _ => .pure

section

variable {r : Reader Printed}

theorem Carries.commaList (h : Carries [] Printed.targets r) :
    Carries [] Printed.targets (commaList r) := by
  refine h.commaSeparated.bind fun ps => .pure_of_subperm ?_
  rw [Printed.targets_joinWith]

theorem Carries.spaceList (h : Carries [] Printed.targets r) :
    Carries [] Printed.targets (spaceList r) := by
  refine h.many.bind fun ps => .ite .fail (.pure_of_subperm ?_)
  rw [Printed.targets_joinWith]

theorem Silent.commaList (h : Silent r) : Silent (commaList r) :=
  h.commaSeparated.bind fun _ => .pure

theorem Silent.pair (h : Silent r) : Silent (pair r) := by
  refine h.bind fun a => h.optional.bind fun found => ?_
  split
  · exact .pure
  · exact .pure

theorem Silent.fourSides (h : Silent r) : Silent (fourSides r) := by
  refine (h.atMost 4).bind fun values => ?_
  split
  · exact .pure
  · exact .pure
  · exact .pure
  · exact .pure
  · exact .fail

theorem Silent.sides (h : Silent r) : Silent (sides r) :=
  h.fourSides.bind fun _ => .pure

end

/-! ## Parts in any order -/

/-- A slot that can still be filled is empty. -/
abbrev OpenSlots (readers : List (Option (Reader Printed))) (filled : List (Option Printed)) :
    Prop :=
  List.Forall₂ (fun r p => r.isSome = true → p = none) readers filled

theorem openSlots_map (readers : List (Reader Printed)) :
    OpenSlots (readers.map some) (readers.map fun _ => none) := by
  induction readers with
  | nil => exact .nil
  | cons r rest ih => exact .cons (fun _ => rfl) ih

/-- The reader of the slot that is filled. -/
theorem exists_of_firstSlot {readers : List (Option (Reader Printed))} {place i : Nat}
    {p : Printed} {s rest : List Component}
    (h : firstSlot readers place s = .ok ((i, p), rest)) :
    ∃ before r after, readers = before ++ some r :: after ∧ i = place + before.length ∧
      r s = .ok (p, rest) := by
  induction readers generalizing place with
  | nil => cases h
  | cons first more ih =>
      have hlater : firstSlot more (place + 1) s = .ok ((i, p), rest) →
          ∃ before r after, first :: more = before ++ some r :: after ∧
            i = place + before.length ∧ r s = .ok (p, rest) := by
        intro hmore
        obtain ⟨before, r, after, rfl, rfl, hr⟩ := ih hmore
        refine ⟨first :: before, r, after, rfl, ?_, hr⟩
        rw [List.length_cons]
        omega
      cases first with
      | none => exact hlater h
      | some r =>
          rw [firstSlot] at h
          dsimp only at h
          split at h
          · rename_i q rest' hr
            obtain ⟨⟨rfl, rfl⟩, rfl⟩ : (place = i ∧ q = p) ∧ rest' = rest := by simpa using h
            exact ⟨[], r, more, rfl, rfl, hr⟩
          · exact hlater h

section

variable {out : Printed → List String}

/-- Where a slot was open, filling it loses nothing. -/
theorem OpenSlots.set (out : Printed → List String)
    {before after : List (Option (Reader Printed))} {r : Reader Printed}
    {filled : List (Option Printed)} (h : OpenSlots (before ++ some r :: after) filled)
    (p : Printed) :
    OpenSlots ((before ++ some r :: after).set before.length none)
        (filled.set before.length (some p)) ∧
      filled.flatMap (inOption out) ++ out p <+~
        (filled.set before.length (some p)).flatMap (inOption out) := by
  induction before generalizing filled with
  | nil =>
      cases h with
      | cons hempty htail =>
          obtain rfl := hempty rfl
          refine ⟨.cons (fun hnone => nomatch hnone) htail, ?_⟩
          exact List.perm_append_comm.subperm
  | cons first before ih =>
      cases h with
      | cons hfirst htail =>
          obtain ⟨hopen, hsub⟩ := ih htail
          refine ⟨.cons hfirst hopen, ?_⟩
          rw [List.length_cons, List.set_cons_succ, List.flatMap_cons, List.flatMap_cons,
            List.append_assoc]
          exact List.Subperm.append (List.Subperm.refl _) hsub

theorem Carries.fillSlots {readers : List (Option (Reader Printed))}
    {filled : List (Option Printed)} (hreaders : ∀ r, some r ∈ readers → Carries [] out r)
    (hopen : OpenSlots readers filled) (fuel : Nat) :
    Carries (filled.flatMap (inOption out)) (List.flatMap (inOption out))
      (fillSlots readers filled fuel) := by
  induction fuel generalizing readers filled with
  | zero => exact .pure_of_subperm (List.Subperm.refl _)
  | succ fuel ih =>
      intro s slots rest hr
      rw [Reader.fillSlots] at hr
      obtain ⟨found, s', hfound, hr⟩ := exists_of_bind_eq_ok hr
      rw [Reader.optional] at hfound
      split at hfound
      · rename_i slot rest' hslot
        obtain ⟨rfl, rfl⟩ : some slot = found ∧ rest' = s' := by simpa using hfound
        obtain ⟨i, p⟩ := slot
        obtain ⟨before, r, after, rfl, rfl, hp⟩ := exists_of_firstSlot hslot
        have hpart := hreaders r (by simp) hp
        obtain ⟨hnext, hsub⟩ := hopen.set out p
        have hset : ∀ r', some r' ∈ (before ++ some r :: after).set before.length none →
            Carries [] out r' := by
          intro r' hr'
          rcases List.mem_or_eq_of_mem_set hr' with hr' | hr'
          · exact hreaders r' hr'
          · cases hr'
        rw [Nat.zero_add] at hr
        have hmore := ih hset hnext hr
        have hheld := List.Subperm.append (.refl (filled.flatMap (inOption out))) hpart
        rw [List.nil_append, ← List.append_assoc] at hheld
        exact hheld.trans ((hsub.append (.refl _)).trans hmore)
      · obtain ⟨rfl, rfl⟩ : none = found ∧ s = s' := by simpa using hfound
        exact (Carries.pure_of_subperm (List.Subperm.refl _)) hr

theorem Carries.anyOrder {readers : List (Reader Printed)}
    (h : ∀ r ∈ readers, Carries [] out r) :
    Carries [] (List.flatMap (inOption out)) (anyOrder readers) := by
  have hslots := Carries.fillSlots (fun r hr => h r (by simpa using hr)) (openSlots_map readers)
    readers.length
  refine (hslots.of_subperm List.nil_subperm).bind fun filled => ?_
  exact .ite .fail (.pure_of_subperm (List.Subperm.refl _))

end

theorem flatMap_inOption_nil_subperm (slots : List (Option Printed)) :
    slots.flatMap (inOption fun _ => []) <+~ [] := by
  rw [List.subperm_nil, List.flatMap_eq_nil_iff]
  intro p _
  cases p <;> rfl

theorem Silent.fillSlots {readers : List (Reader Printed)} (h : ∀ r ∈ readers, Silent r)
    (fuel : Nat) :
    Silent (fillSlots (readers.map some) (readers.map fun _ => none) fuel) := by
  have hslots := Carries.fillSlots (fun r hr => h r (by simpa using hr)) (openSlots_map readers)
    fuel
  exact (hslots.of_subperm List.nil_subperm).mono flatMap_inOption_nil_subperm

theorem Silent.anyOrder {readers : List (Reader Printed)} (h : ∀ r ∈ readers, Silent r) :
    Silent (anyOrder readers) :=
  (Carries.anyOrder h).mono flatMap_inOption_nil_subperm

theorem Silent.inOrder {readers : List (Reader Printed)} (h : ∀ r ∈ readers, Silent r) :
    Silent (inOrder readers) :=
  (Silent.anyOrder h).bind fun _ => .pure

theorem length_of_fillSlots {readers : List (Option (Reader Printed))}
    {filled slots : List (Option Printed)} {fuel : Nat} {s rest : List Component}
    (h : fillSlots readers filled fuel s = .ok (slots, rest)) : slots.length = filled.length := by
  induction fuel generalizing readers filled s with
  | zero =>
      obtain ⟨rfl, -⟩ : filled = slots ∧ s = rest := by
        simpa [fillSlots, pure_apply] using h
      rfl
  | succ fuel ih =>
      rw [fillSlots] at h
      obtain ⟨found, s', -, h⟩ := exists_of_bind_eq_ok h
      split at h
      · obtain ⟨rfl, -⟩ : filled = slots ∧ s' = rest := by
          simpa [pure_apply] using h
        rfl
      · rw [ih h, List.length_set]

theorem length_of_anyOrder {readers : List (Reader Printed)} {slots : List (Option Printed)}
    {s rest : List Component} (h : anyOrder readers s = .ok (slots, rest)) :
    slots.length = readers.length := by
  obtain ⟨filled, s', hfilled, h⟩ := exists_of_bind_eq_ok h
  have hlength := length_of_fillSlots hfilled
  split at h
  · cases h
  · obtain ⟨rfl, -⟩ : filled = slots ∧ s' = rest := by
      simpa [pure_apply] using h
    rw [hlength, List.length_map]

/-- What is left out is fixed text. -/
theorem inSlots_subperm_shown {slots : List (Option Printed)} {initials : List String}
    (h : slots.length = initials.length) :
    slots.flatMap (inOption Printed.targets) <+~
      ((slots.zip initials).filterMap fun (p, initial) =>
        match p with
        | some p => if p = Printed.ofText initial then none else some p
        | none => none).flatMap Printed.targets := by
  induction slots generalizing initials with
  | nil => exact List.nil_subperm
  | cons p rest ih =>
      cases initials with
      | nil => cases h
      | cons initial initials =>
          have hrest := ih (Nat.succ.inj h)
          rw [List.flatMap_cons, List.zip_cons_cons]
          cases p with
          | none => exact hrest
          | some p =>
              by_cases hp : p = Printed.ofText initial
              · subst hp
                simpa using hrest
              · simp only [List.filterMap_cons, if_neg hp, List.flatMap_cons, inOption_some]
                exact List.Subperm.append (List.Subperm.refl _) hrest

theorem inShown_subperm (shown : List Printed) (blank : Printed) :
    shown.flatMap Printed.targets <+~
      Printed.targets (if shown.isEmpty then blank else Printed.joinWith " " shown) := by
  split
  · rename_i hempty
    rw [List.isEmpty_iff.mp hempty]
    exact List.nil_subperm
  · rw [Printed.targets_joinWith]

theorem Carries.shorthand {parts : List (Reader Printed × String)} {blank : Printed}
    (h : ∀ part ∈ parts, Carries [] Printed.targets part.1) :
    Carries [] Printed.targets (shorthand parts blank) := by
  intro s p rest hr
  obtain ⟨filled, s', hfilled, hr⟩ := exists_of_bind_eq_ok hr
  have hreaders : ∀ r ∈ parts.map Prod.fst, Carries [] Printed.targets r := by
    intro r hmem
    obtain ⟨part, hpart, rfl⟩ := List.mem_map.mp hmem
    exact h part hpart
  have hlength := length_of_anyOrder hfilled
  rw [List.length_map] at hlength
  have hinitials : filled.length = (parts.map Prod.snd).length := by rw [hlength, List.length_map]
  have hshown := inSlots_subperm_shown hinitials
  refine (Carries.anyOrder hreaders hfilled).trans ?_
  exact (Carries.pure_of_subperm (hshown.trans (inShown_subperm _ _))) hr

/-! ## Positions -/

theorem silent_horizontalSide : Silent horizontalSide :=
  silent_oneOf _

theorem silent_verticalSide : Silent verticalSide :=
  silent_oneOf _

theorem silent_positionPart {side : Reader String} (h : Silent side) :
    Silent (positionPart side) :=
  .orElse ((silent_word _).bind fun _ => .pure)
    (.orElse (silent_lengthPercentage.bind fun _ => .pure)
      (.orElse (h.bind fun _ => silent_lengthPercentage.optional.bind fun _ => .pure) .fail))

theorem silent_afterCenter : Silent afterCenter := by
  refine (silent_positionPart silent_verticalSide).optional.bind fun y => ?_
  split
  · exact .pure
  · refine (silent_positionPart silent_horizontalSide).optional.bind fun x => ?_
    split
    · exact .pure
    · exact .pure

theorem silent_afterLength (x : PositionPart) : Silent (afterLength x) :=
  .orElse (silent_verticalSide.bind fun _ => .pure)
    (.orElse (silent_lengthPercentage.bind fun _ => .pure)
      (.orElse ((silent_word _).optional.bind fun _ => .pure) .fail))

theorem silent_afterSide (name : String) (offset : Option Measure) :
    Silent (afterSide name offset) :=
  .orElse ((silent_word _).bind fun _ => .pure)
    (.orElse
      (silent_verticalSide.bind fun _ => silent_lengthPercentage.optional.bind fun _ => .pure)
      (.orElse .pure .fail))

theorem silent_afterVerticalSide (y : String) : Silent (afterVerticalSide y) := by
  have hx : Silent (firstOf [do
      let x ← horizontalSide
      return PositionPart.side x (← optional lengthPercentage),
      do
        word "center"
        pure .center]) :=
    .orElse (silent_horizontalSide.bind fun _ =>
        silent_lengthPercentage.optional.bind fun _ => .pure)
      (.orElse ((silent_word _).bind fun _ => .pure) .fail)
  exact .orElse (silent_lengthPercentage.optional.bind fun _ => hx.bind fun _ => .pure)
    (.orElse .pure .fail)

theorem silent_position : Silent position := by
  refine (silent_positionPart silent_horizontalSide).optional.bind fun x => ?_
  split
  · exact silent_afterCenter
  · exact silent_afterLength _
  · exact silent_afterSide _ _
  · exact silent_verticalSide.bind fun y => silent_afterVerticalSide y

theorem silent_positionText : Silent positionText :=
  silent_position.bind fun _ => .pure

theorem silent_positionPartText {side : Reader String} (h : Silent side) :
    Silent (positionPartText side) :=
  (silent_positionPart h).bind fun _ => .pure

/-! ## Gradients -/

theorem silent_gradientPart {place : Reader Measure} (h : Silent place) (afterStop : Bool) :
    Silent (gradientPart place afterStop) := by
  refine .orElse (.ite (h.bind fun _ => .pure) .fail) (.orElse ?_ .fail)
  refine silent_color.bind fun c => h.optional.bind fun first => h.optional.bind fun second => ?_
  split
  · exact .pure
  · exact .pure

theorem targetsOf_of_gradientParts {place : Reader Measure} (h : Silent place) {afterStop : Bool}
    {parts : List (List Component)} {items : List GradientItem}
    (hitems : gradientParts place afterStop parts = some items) :
    parts.flatMap targetsOf = [] := by
  induction parts generalizing afterStop items with
  | nil => rfl
  | cons part rest ih =>
      rw [gradientParts] at hitems
      simp only [bind, Option.bind_eq_some_iff] at hitems
      obtain ⟨⟨first, stopped⟩, hpart, more, hmore, -⟩ := hitems
      have hnil := List.subperm_nil.mp ((silent_gradientPart h afterStop).of_all? hpart)
      rw [List.flatMap_cons, ih hmore]
      simpa using hnil

theorem silent_gradientItems {place : Reader Measure} (h : Silent place) :
    Silent (gradientItems place) := by
  intro s items rest hr
  rw [gradientItems] at hr
  split at hr
  · rename_i found hfound
    rw [← Component.targetsOf_splitCommas, targetsOf_of_gradientParts h hfound]
    exact List.nil_subperm
  · cases hr

theorem silent_lineDirection (pre : Bool) : Silent (lineDirection pre) := by
  refine .orElse (silent_angleOrZero.bind fun _ => .pure) (.orElse ?_ .fail)
  refine .when (silent_word _) fun _ => silent_horizontalSide.optional.bind fun x => ?_
  split
  · refine silent_verticalSide.optional.bind fun y => ?_
    split
    · exact .pure
    · exact .pure
  · refine silent_verticalSide.bind fun y => silent_horizontalSide.optional.bind fun x => ?_
    split
    · exact .pure
    · exact .pure

theorem silent_linearGradient (pre : Bool) : Silent (linearGradient pre) := by
  refine (silent_lineDirection pre).optional.bind fun direction => .when silent_comma fun _ => ?_
  refine (silent_gradientItems silent_lengthPercentage).bind fun items => ?_
  split
  · exact .pure
  · exact .ite .pure (.ite .pure .pure)

theorem silent_shapeExtent : Silent shapeExtent :=
  silent_oneOf _

theorem silent_ellipse : Silent ellipse := by
  refine .orElse ?_ (.orElse ?_ (.orElse ?_ .fail))
  · refine silent_shapeExtent.bind fun extent => (silent_oneOf _).optional.bind fun shape => ?_
    split
    · exact .fail
    · exact .pure
  · exact silent_lengthPercentage.bind fun _ => silent_lengthPercentage.bind fun _ =>
      (silent_word _).optional.bind fun _ => .pure
  · refine (silent_word _).bind fun _ => silent_shapeExtent.optional.bind fun extent => ?_
    split
    · exact .pure
    · refine silent_lengthPercentage.optional.bind fun x => ?_
      split
      · exact silent_lengthPercentage.bind fun _ => .pure
      · exact .pure

theorem silent_circle : Silent circle := by
  refine .orElse ?_ (.orElse ?_ (.orElse ?_ .fail))
  · exact silent_shapeExtent.bind fun _ => (silent_word _).bind fun _ => .pure
  · exact silent_length.bind fun _ => (silent_word _).optional.bind fun _ => .pure
  · refine (silent_word _).bind fun _ => silent_shapeExtent.optional.bind fun extent => ?_
    split
    · exact .pure
    · refine silent_length.optional.bind fun radius => ?_
      split
      · exact .pure
      · exact .pure

theorem silent_atPosition : Silent atPosition :=
  (silent_word _).bind fun _ => silent_position

theorem silent_radialGradient : Silent radialGradient := by
  refine Silent.bind (Silent.optional (.orElse silent_ellipse (.orElse silent_circle .fail)))
    fun shape => ?_
  refine silent_atPosition.optional.bind fun center => .when silent_comma fun _ => ?_
  exact (silent_gradientItems silent_lengthPercentage).bind fun _ => .pure

theorem silent_conicGradient : Silent conicGradient := by
  refine Silent.bind (Silent.optional ((silent_word _).bind fun _ => silent_angleOrZero))
    fun start => ?_
  refine silent_atPosition.optional.bind fun center => .when silent_comma fun _ => ?_
  exact (silent_gradientItems (silent_measure _ _)).bind fun _ => .pure

theorem ne_url_of_gradient {name kind : String} (h : (unprefixedGradient name).getD name = kind)
    (hkind : kind ≠ "url") : name ≠ "url" := by
  rintro rfl
  have hurl : (unprefixedGradient "url").getD "url" = "url" := by decide +kernel
  exact hkind (h.symm.trans hurl)

theorem silent_gradient : Silent gradient := by
  refine carries_function.bind fun call => ?_
  obtain ⟨name, items⟩ := call
  have hgradient : ∀ {kind : String}, (unprefixedGradient name).getD name = kind →
      kind ≠ "url" → ∀ {r : Reader String}, Silent r →
      Carries (inCall (name, items)) (fun _ => []) (inside r items) := by
    intro kind h hkind r hr
    exact (hr.inside items).of_subperm (inCall_subperm (ne_url_of_gradient h hkind))
  dsimp only
  split
  · rename_i h
    exact (hgradient h (by decide) (silent_linearGradient _)).bind fun _ => .pure
  · rename_i h
    exact (hgradient h (by decide) (silent_linearGradient _)).bind fun _ => .pure
  · rename_i h
    exact (hgradient h (by decide) silent_radialGradient).bind fun _ => .pure
  · rename_i h
    exact (hgradient h (by decide) silent_radialGradient).bind fun _ => .pure
  · rename_i h
    exact .ite (Carries.fail.bind fun _ => .pure)
      ((hgradient h (by decide) silent_conicGradient).bind fun _ => .pure)
  · rename_i h
    exact .ite (Carries.fail.bind fun _ => .pure)
      ((hgradient h (by decide) silent_conicGradient).bind fun _ => .pure)
  · exact Carries.fail.bind fun _ => .pure

/-! ## Images -/

/-- The references of a set of images are not looked into. -/
theorem silent_imageSet : Silent imageSet := by
  refine carries_function.bind fun call => ?_
  obtain ⟨name, items⟩ := call
  dsimp only
  split
  · rename_i hname
    have hset : inCall (name, items) = [] := by
      rcases hname with rfl | rfl <;> rfl
    rw [hset]
    exact (silent_inside _ items).bind fun _ => .pure
  · exact .fail

theorem carries_image : Carries [] Printed.targets image :=
  .orElse (silent_words _).carries
    (.orElse carries_urlPiece
      (.orElse silent_gradient.carries (.orElse silent_imageSet.carries .fail)))

/-! ## Fonts and animations -/

theorem silent_family : Silent family :=
  .orElse (silent_string.bind fun _ => .pure)
    (.orElse (silent_words _)
      (.orElse (silent_ident.bind fun _ => silent_ident.many.bind fun _ => .pure) .fail))

theorem silent_fontWeight : Silent fontWeight := by
  refine .orElse silent_numberText (.orElse ((silent_oneOf _).bind fun w => ?_) .fail)
  split
  · exact .pure
  · exact .pure
  · exact .pure

theorem silent_fontWidthWord : Silent fontWidthWord := by
  refine silent_keyword.bind fun w => ?_
  split
  · exact .pure
  · exact .fail

theorem silent_fontWidth : Silent fontWidth :=
  .orElse silent_fontWidthWord (.orElse (silent_measureText silent_percentage) .fail)

theorem silent_fontSlope : Silent fontSlope := by
  refine (silent_oneOf _).bind fun w => ?_
  split
  · refine silent_angle.optional.bind fun angle => ?_
    split
    · exact .pure
    · exact .pure
    · exact .pure
  · exact .pure

theorem silent_animationName : Silent animationName := by
  refine carries_next.bind fun c => ?_
  split
  · exact .ite .fail .pure
  · exact .ite .pure .pure
  · exact .fail

end Reader

end Css

end StylePrune
