import StylePrune.Proofs.Css.Targets

/-!
# Readers that carry references

No reader loses a reference: the targets in what it takes are in its value, each as often as it
was taken.  The rules for the combinators of readers keep account of the targets that are held
by the values read so far.
-/

namespace StylePrune

namespace Css

open scoped List
open Component (targetsOf)

namespace Reader

/--
The targets in `held`, and those in the components before the reader, are in the value that is
read, of which `out` gives the targets, or in the components after the reader.
-/
def Carries {α : Type} (held : List String) (out : α → List String) (r : Reader α) : Prop :=
  ∀ ⦃s a rest⦄, r s = .ok (a, rest) → held ++ targetsOf s <+~ out a ++ targetsOf rest

/-- What the reader takes has no references. -/
abbrev Silent {α : Type} (r : Reader α) : Prop :=
  Carries [] (fun _ => []) r

def inOption {α : Type} (out : α → List String) : Option α → List String
  | none => []
  | some a => out a

@[simp] theorem inOption_none {α : Type} (out : α → List String) : inOption out none = [] := rfl

@[simp] theorem inOption_some {α : Type} (out : α → List String) (a : α) :
    inOption out (some a) = out a := rfl

theorem flatMap_filterMap {α β : Type} (out : β → List String) (f : α → Option β) (as : List α) :
    (as.filterMap f).flatMap out = as.flatMap fun a => inOption out (f a) := by
  induction as with
  | nil => rfl
  | cons a rest ih =>
      rw [List.filterMap_cons, List.flatMap_cons]
      cases f a with
      | none => exact ih
      | some b =>
          dsimp only
          rw [List.flatMap_cons, ih, inOption_some]

section

variable {α β : Type} {held held' : List String} {mid out out' : α → List String}
  {after : β → List String} {r : Reader α} {f : α → Reader β}

/-! ## Sequences -/

theorem pure_apply (a : α) (s : List Component) : (pure a : Reader α) s = .ok (a, s) := rfl

theorem exists_of_bind_eq_ok {s rest : List Component} {b : β}
    (h : (r >>= f) s = .ok (b, rest)) : ∃ a s', r s = .ok (a, s') ∧ f a s' = .ok (b, rest) := by
  simp only [bind, StateT.bind, Except.bind] at h
  cases hr : r s with
  | error e =>
      rw [hr] at h
      cases h
  | ok p =>
      rw [hr] at h
      exact ⟨p.1, p.2, rfl, h⟩

theorem Carries.mono (h : Carries held out r) (hout : ∀ a, out a <+~ out' a) :
    Carries held out' r := by
  intro s a rest hr
  exact (h hr).trans (.append (hout a) (.refl _))

theorem Carries.of_subperm (h : Carries held out r) (hheld : held' <+~ held) :
    Carries held' out r := by
  intro s a rest hr
  exact (List.Subperm.append hheld (.refl _)).trans (h hr)

/-- More can be held beside what a reader carries. -/
theorem Carries.beside (h : Carries held out r) (more : List String) :
    Carries (more ++ held) (fun a => more ++ out a) r := by
  intro s a rest hr
  rw [List.append_assoc, List.append_assoc]
  exact .append (.refl _) (h hr)

theorem Carries.pure_of_subperm {a : α} (h : held <+~ out a) :
    Carries held out (pure a : Reader α) := by
  intro s b rest hr
  rw [pure_apply] at hr
  obtain ⟨rfl, rfl⟩ : a = b ∧ s = rest := by simpa using hr
  exact .append h (.refl _)

theorem Carries.pure {a : α} : Carries [] out (pure a : Reader α) :=
  .pure_of_subperm List.nil_subperm

theorem Carries.fail : Carries held out (fail : Reader α) := by
  intro s a rest hr
  cases hr

theorem Carries.bind (hr : Carries held mid r) (hf : ∀ a, Carries (mid a) after (f a)) :
    Carries held after (r >>= f) := by
  intro s b rest h
  obtain ⟨a, s', ha, hb⟩ := exists_of_bind_eq_ok h
  exact (hr ha).trans (hf a hb)

/-- What is held stays held while a silent reader reads. -/
theorem Silent.bind (hr : Silent r) (hf : ∀ a, Carries held after (f a)) :
    Carries held after (r >>= f) := by
  have hbeside := hr.beside held
  simp only [List.append_nil] at hbeside
  exact hbeside.bind hf

/-- A silent reader gives any targets to its value. -/
theorem Silent.carries (h : Silent r) : Carries [] out r :=
  h.mono fun _ => List.nil_subperm

theorem Carries.ite {c : Prop} [Decidable c] {x y : Reader α} (hx : Carries held out x)
    (hy : Carries held out y) : Carries held out (if c then x else y) := by
  split
  · exact hx
  · exact hy

/-- A silent reader that is used under a condition, and what follows in both cases. -/
theorem Carries.when {c : Prop} [Decidable c] {check : Reader Unit} {next : Unit → Reader β}
    (hcheck : Silent check) (hnext : ∀ u, Carries held after (next u)) :
    Carries held after (if c then check >>= next else next ()) := by
  split
  · exact hcheck.bind hnext
  · exact hnext ()

/-- One of two silent readers, and what follows either of them. -/
theorem Carries.either {c : Prop} [Decidable c] {x y : Reader α} {next : α → Reader β}
    (hx : Silent x) (hy : Silent y) (hnext : ∀ a, Carries held after (next a)) :
    Carries held after (if c then x >>= next else y >>= next) := by
  split
  · exact hx.bind hnext
  · exact hy.bind hnext

theorem Carries.ofOption {o : Option α} (h : ∀ a, o = some a → held <+~ out a) :
    Carries held out (ofOption o) := by
  cases o with
  | none => exact .fail
  | some a => exact .pure_of_subperm (h a rfl)

/-! ## Choices -/

/-- Where nothing is read, what was held is held still. -/
theorem Carries.optional_of_held (h : Carries held out r) :
    Carries held (fun o => o.elim held out) (Reader.optional r) := by
  intro s o rest hr
  rw [Reader.optional] at hr
  split at hr
  · rename_i a rest' ha
    obtain ⟨rfl, rfl⟩ : some a = o ∧ rest' = rest := by simpa using hr
    exact h ha
  · obtain ⟨rfl, rfl⟩ : none = o ∧ s = rest := by simpa using hr
    exact List.Subperm.refl _

theorem Carries.optional (h : Carries [] out r) :
    Carries [] (inOption out) (Reader.optional r) := by
  refine h.optional_of_held.mono fun o => ?_
  cases o <;> exact List.Subperm.refl _

/-- What follows is read after a value or after none. -/
theorem Carries.optional_bind {f : Option α → Reader β} (h : Carries [] out r)
    (hnone : Carries held after (f none))
    (hsome : ∀ a, Carries (held ++ out a) after (f (some a))) :
    Carries held after (Reader.optional r >>= f) := by
  have hheld := h.optional.beside held
  rw [List.append_nil] at hheld
  refine hheld.bind fun o => ?_
  cases o with
  | none =>
      rw [inOption_none, List.append_nil]
      exact hnone
  | some a => exact hsome a

theorem Silent.optional (h : Silent r) : Silent (Reader.optional r) := by
  refine Carries.mono (Carries.optional h) fun o => ?_
  cases o <;> exact List.Subperm.refl _

theorem Carries.orElse {more : List (Reader α)} (h : Carries held out r)
    (hmore : Carries held out (firstOf more)) : Carries held out (firstOf (r :: more)) := by
  intro s a rest hr
  rw [firstOf] at hr
  dsimp only at hr
  split at hr
  · rename_i x hx
    obtain rfl : x = (a, rest) := by simpa using hr
    exact h hx
  · exact hmore hr

theorem Carries.firstOf {rs : List (Reader α)} (h : ∀ r ∈ rs, Carries held out r) :
    Carries held out (firstOf rs) := by
  induction rs with
  | nil => exact .fail
  | cons r more ih =>
      obtain ⟨hr, hmore⟩ := List.forall_mem_cons.mp h
      exact .orElse hr (ih hmore)

/-! ## Repetition -/

theorem Carries.atMost (h : Carries [] out r) (count : Nat) :
    Carries [] (List.flatMap out) (atMost r count) := by
  induction count with
  | zero => exact .pure
  | succ count ih =>
      refine h.optional.bind fun o => ?_
      cases o with
      | none => exact .pure
      | some a =>
          have hmore := ih.beside (out a)
          rw [List.append_nil] at hmore
          exact hmore.bind fun more => .pure_of_subperm (List.Subperm.refl _)

theorem Carries.many (h : Carries [] out r) : Carries [] (List.flatMap out) (many r) :=
  fun s _ _ hr => h.atMost s.length hr

theorem flatMap_nil_subperm (xs : List α) : (xs.flatMap fun _ => ([] : List String)) <+~ [] := by
  simp

theorem Silent.atMost (h : Silent r) (count : Nat) : Silent (atMost r count) :=
  (Carries.atMost h count).mono fun xs => flatMap_nil_subperm xs

theorem Silent.many (h : Silent r) : Silent (many r) :=
  (Carries.many h).mono fun xs => flatMap_nil_subperm xs

/-! ## All of some components -/

theorem targetsOf_eq_nil_of_isEmpty {s : List Component} (h : (skipBlanks s).isEmpty = true) :
    targetsOf s = [] := by
  rw [← Component.targetsOf_skipBlanks, List.isEmpty_iff.mp h, Component.targetsOf_nil]

theorem Carries.of_all {items : List Component} {a : α} (h : Carries held out r)
    (ha : all r items = .ok a) : held ++ targetsOf items <+~ out a := by
  rw [all] at ha
  split at ha
  · cases ha
  · rename_i b rest hr
    split at ha
    · rename_i hempty
      obtain rfl : b = a := by simpa using ha
      have hsub := h hr
      rwa [targetsOf_eq_nil_of_isEmpty hempty, List.append_nil] at hsub
    · cases ha

theorem Carries.of_all? {items : List Component} {a : α} (h : Carries held out r)
    (ha : all? r items = some a) : held ++ targetsOf items <+~ out a := by
  rw [all?] at ha
  cases hall : all r items with
  | error e => simp [hall, Except.toOption] at ha
  | ok b =>
      obtain rfl : b = a := by simpa [hall, Except.toOption] using ha
      exact h.of_all hall

theorem exists_of_all?_bind {items : List Component} {b : β}
    (h : all? (r >>= f) items = some b) : ∃ a s, r items = .ok (a, s) ∧ all? (f a) s = some b := by
  simp only [all?, all] at h ⊢
  cases hr : (r >>= f) items with
  | error e =>
      rw [hr] at h
      cases h
  | ok x =>
      obtain ⟨a, s, ha, hb⟩ := exists_of_bind_eq_ok hr
      refine ⟨a, s, ha, ?_⟩
      rw [hr] at h
      rw [hb]
      exact h

/-- What is held includes the components that are read. -/
theorem Carries.inside (h : Carries [] out r) (items : List Component) :
    Carries (targetsOf items) out (inside r items) := by
  intro s a rest hr
  rw [Reader.inside] at hr
  split at hr
  · rename_i b hb
    obtain ⟨rfl, rfl⟩ : b = a ∧ s = rest := by simpa using hr
    exact .append (h.of_all hb) (.refl _)
  · cases hr

/-- Content that was taken before is read beside what is left. -/
theorem silent_inside (r : Reader α) (items : List Component) : Silent (inside r items) := by
  intro s a rest hr
  rw [inside] at hr
  split at hr
  · obtain ⟨-, rfl⟩ : _ ∧ s = rest := by simpa using hr
    exact List.Subperm.refl _
  · cases hr

theorem Carries.inside_fail (items : List Component) :
    Carries held out (Reader.inside (Reader.fail : Reader α) items) := by
  intro s a rest hr
  cases hr

theorem Carries.of_allParts (h : Carries [] out r) {parts : List (List Component)} {xs : List α}
    (hx : allParts r parts = .ok xs) : parts.flatMap targetsOf <+~ xs.flatMap out := by
  induction parts generalizing xs with
  | nil =>
      obtain rfl : [] = xs := by simpa [allParts] using hx
      exact List.Subperm.refl _
  | cons part rest ih =>
      rw [allParts] at hx
      split at hx
      · cases hx
      · rename_i a ha
        split at hx
        · cases hx
        · rename_i more hmore
          obtain rfl : a :: more = xs := by simpa using hx
          have hpart := h.of_all ha
          rw [Component.targetsOf_skipBlanks] at hpart
          rw [List.flatMap_cons, List.flatMap_cons]
          exact List.Subperm.append hpart (ih hmore)

theorem Carries.commaSeparated (h : Carries [] out r) :
    Carries [] (List.flatMap out) (commaSeparated r) := by
  intro s xs rest hr
  rw [Reader.commaSeparated] at hr
  split at hr
  · rename_i ys hys
    obtain ⟨rfl, rfl⟩ : ys = xs ∧ [] = rest := by simpa using hr
    rw [List.nil_append, ← Component.targetsOf_splitCommas]
    exact subperm_append_of_subperm_left _ (h.of_allParts hys)
  · cases hr

theorem Silent.commaSeparated (h : Silent r) : Silent (commaSeparated r) :=
  (Carries.commaSeparated h).mono fun xs => flatMap_nil_subperm xs

end

/-! ## Single components -/

theorem carries_next : Carries [] Component.targets next := by
  intro s c rest hr
  rw [next] at hr
  split at hr
  · cases hr
  · rename_i d more hskip
    obtain ⟨rfl, rfl⟩ : d = c ∧ more = rest := by simpa using hr
    rw [List.nil_append, ← Component.targetsOf_skipBlanks, hskip, Component.targetsOf_cons]

theorem carries_nextRaw : Carries [] Component.targets nextRaw := by
  intro s c rest hr
  rw [nextRaw] at hr
  split at hr
  · cases hr
  · rename_i d more hskip
    obtain ⟨rfl, rfl⟩ : d = c ∧ more = rest := by simpa using hr
    rw [List.nil_append, ← Component.targetsOf_skipComments, hskip, Component.targetsOf_cons]

theorem silent_atEnd : Silent atEnd := by
  intro s b rest hr
  obtain ⟨-, rfl⟩ : _ ∧ s = rest := by simpa [atEnd] using hr
  exact List.Subperm.refl _

theorem silent_expectEnd : Silent expectEnd :=
  silent_atEnd.bind fun _ => .ite .pure .fail

theorem carries_rest : Carries [] targetsOf rest := by
  intro s items s' hr
  obtain ⟨rfl, rfl⟩ : s = items ∧ [] = s' := by simpa [rest] using hr
  rw [Component.targetsOf_nil, List.append_nil, List.nil_append]

theorem silent_ident : Silent ident := by
  refine carries_next.bind fun c => ?_
  split
  · exact .pure
  · exact .fail

theorem silent_keyword : Silent keyword :=
  silent_ident.bind fun _ => .pure

theorem silent_oneOf (ws : List String) : Silent (oneOf ws) :=
  silent_keyword.bind fun _ => .ite .pure .fail

theorem silent_word (w : String) : Silent (word w) :=
  (silent_oneOf [w]).bind fun _ => .pure

theorem silent_string : Silent string := by
  refine carries_next.bind fun c => ?_
  split
  · exact .pure
  · exact .fail

theorem silent_comma : Silent comma := by
  refine carries_next.bind fun c => ?_
  split
  · exact .pure
  · exact .fail

theorem silent_colon : Silent colon := by
  refine carries_next.bind fun c => ?_
  split
  · exact .pure
  · exact .fail

theorem targets_of_isDelim {d : Char} {c : Component} (h : c.isDelim d = true) :
    c.targets = [] := by
  unfold Component.isDelim at h
  split at h
  · rfl
  · cases h

theorem silent_delim (d : Char) : Silent (delim d) := by
  refine carries_next.bind fun c => ?_
  split
  · rename_i h
    rw [targets_of_isDelim h]
    exact .pure
  · exact .fail

/-! ## Functions -/

/--
The targets in a call of a function, by its name in lower case.  The arguments of `url` may be
a target or hold others.
-/
def inCall (call : String × List Component) : List String :=
  if call.1 = "url" then (all? string call.2).toList ++ targetsOf call.2
  else if Component.isImageSet call.1 then []
  else targetsOf call.2

theorem targets_function_subperm (name : String) (text : List Char) (items : List Component)
    (closed : Bool) :
    (Component.function name text items closed).targets <+~ inCall (Text.lower name, items) := by
  rw [Component.targets, inCall]
  by_cases hname : name = "url"
  · subst hname
    have hlower : Text.lower "url" = "url" := by decide +kernel
    rw [if_pos rfl, if_pos hlower]
    exact (List.sublist_append_left _ _).subperm
  · rw [if_neg hname]
    dsimp only
    split
    · exact List.nil_subperm
    · split
      · exact (List.sublist_append_right _ _).subperm
      · exact List.Subperm.refl _

theorem carries_function : Carries [] inCall function := by
  refine carries_next.bind fun c => ?_
  split
  · exact .pure_of_subperm (targets_function_subperm _ _ _ _)
  · exact .fail

theorem inCall_subperm {name : String} {items : List Component} (h : name ≠ "url") :
    inCall (name, items) <+~ targetsOf items := by
  rw [inCall, if_neg h]
  split
  · exact List.nil_subperm
  · exact List.Subperm.refl _

theorem carries_functionNamed {names : List String} (h : "url" ∉ names) :
    Carries [] targetsOf (functionNamed names) := by
  refine carries_function.bind fun call => ?_
  obtain ⟨name, items⟩ := call
  dsimp only
  split
  · rename_i hname
    refine .pure_of_subperm (inCall_subperm ?_)
    rintro rfl
    exact h (List.contains_iff_mem.mp hname)
  · exact .fail

theorem carries_url : Carries [] (fun target => [target]) url := by
  refine carries_next.bind fun c => ?_
  split
  · exact .pure_of_subperm (List.Subperm.refl _)
  · rename_i name text items closed
    split
    · rw [Component.targets]
      split
      · -- The target is what the reader reads.
        intro s a rest hr
        rw [inside] at hr
        split at hr
        · rename_i b hb
          obtain ⟨rfl, rfl⟩ : b = a ∧ s = rest := by simpa using hr
          have hall : all? string items = some b := by rw [all?, hb, Except.toOption]
          rw [hall]
          exact .refl _
        · cases hr
      · have hlower : Component.isImageSet (Text.lower name) = false := by
          rename_i h _
          rw [h]
          rfl
        rw [hlower, if_neg Bool.false_ne_true]
        exact (silent_string.carries.inside items)
    · exact .fail
  · exact .fail

end Reader

end Css

end StylePrune
