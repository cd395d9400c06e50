import StylePrune.Allow.Rule

/-!
# Allow lists that cannot be compiled

An allow list fails for a stylesheet only through the pattern of an entry that is in force
there.
-/

namespace StylePrune

namespace Allow

/-- A list fails where one of its items does. -/
theorem mapM_eq_error_iff {α β ε : Type} {f : α → Except ε β} {xs : List α} :
    (∃ e, xs.mapM f = .error e) ↔ ∃ x ∈ xs, ∃ e, f x = .error e := by
  induction xs with
  | nil => simp [pure, Except.pure]
  | cons x rest ih =>
      simp only [List.mapM_cons, List.mem_cons, exists_eq_or_imp, ← ih]
      cases hx : f x with
      | error e => simp [bind, Except.bind]
      | ok y =>
          cases hrest : rest.mapM f with
          | error e => simp [bind, Except.bind]
          | ok ys => simp [bind, Except.bind, pure, Except.pure]

namespace Entry

/-- The entry has a pattern that the engine refuses. -/
def IsBroken (engine : Engine) (e : Entry) : Prop :=
  ∃ source, e.patternText? = some source ∧ engine.regex? source = none

theorem compile_eq_error_iff {engine : Engine} {e : Entry} :
    (∃ err, e.compile engine = .error err) ↔ e.IsBroken engine := by
  unfold IsBroken compile matcher
  cases e.patternText? with
  | none => simp [Except.map]
  | some source => cases hp : engine.regex? source <;> simp [Except.map, hp]

/-- Engines that agree on the pattern of an entry make the same of it. -/
theorem compile_congr {engine engine' : Engine} {e : Entry}
    (h : ∀ source, e.patternText? = some source → engine.fits source = engine'.fits source) :
    e.compile engine = e.compile engine' := by
  unfold compile matcher
  cases hp : e.patternText? with
  | none => rfl
  | some source => simp only [Engine.regex?, h source hp]

/-- The entry counts for the stylesheet with this id and URL. -/
def IsInForce (e : Entry) (id url : String) : Prop :=
  e.appliesTo id url = true ∧ e.hasItsClass = true

end Entry

theorem compile_eq_error_iff {engine : Engine} {entries : List Entry} {id url : String} :
    (∃ err, compile engine entries id url = .error err) ↔
      ∃ e ∈ entries, e.IsInForce id url ∧ e.IsBroken engine := by
  unfold compile
  rw [mapM_eq_error_iff]
  simp only [List.mem_filter, Bool.and_eq_true, Entry.compile_eq_error_iff, Entry.IsInForce,
    and_assoc]

theorem compile_congr {engine engine' : Engine} {entries : List Entry} {id url : String}
    (h : ∀ e ∈ entries, ∀ source, e.patternText? = some source →
      engine.fits source = engine'.fits source) :
    compile engine entries id url = compile engine' entries id url := by
  have hall (es : List Entry) (hes : ∀ e ∈ es, e ∈ entries) :
      es.mapM (Entry.compile engine) = es.mapM (Entry.compile engine') := by
    induction es with
    | nil => rfl
    | cons e rest ih =>
        rw [List.mapM_cons, List.mapM_cons, Entry.compile_congr (h e (hes e List.mem_cons_self)),
          ih fun x hx => hes x (List.mem_cons_of_mem e hx)]
  exact hall _ fun e he => (List.mem_filter.mp he).1

end Allow

end StylePrune
