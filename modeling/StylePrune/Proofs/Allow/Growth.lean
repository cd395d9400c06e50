import StylePrune.Proofs.Allow.Compile

/-!
# Growing allow lists

An allow list grows safely by entries that cannot stop the evaluation, at any place, and by
any entries at its end.  The rules of a list that grew so grow so too.
-/

namespace StylePrune

namespace Allow

/--
The items of the first list stand in the second in the same order.  What stands before or
between them is of a kind that only admits; at the end anything may follow.
-/
inductive Grows {α : Type} (kind : α → Kind) : List α → List α → Prop
  | atEnd (extra : List α) : Grows kind [] extra
  | keep (x : α) {xs ys : List α} : Grows kind xs ys → Grows kind (x :: xs) (x :: ys)
  | insert {x : α} {xs ys : List α} :
      kind x ≠ .leading → Grows kind xs ys → Grows kind xs (x :: ys)

namespace Grows

section

variable {α : Type} {kind : α → Kind} {xs ys : List α}

theorem refl (xs : List α) : Grows kind xs xs := by
  induction xs with
  | nil => exact .atEnd []
  | cons x rest ih => exact .keep x ih

theorem append_left (zs : List α) (h : Grows kind xs ys) : Grows kind (zs ++ xs) (zs ++ ys) := by
  induction zs with
  | nil => exact h
  | cons z rest ih => exact .keep z ih

/-- Items that only admit may come first. -/
theorem append_of_forall {zs : List α} (hz : ∀ z ∈ zs, kind z ≠ .leading) (xs : List α) :
    Grows kind xs (zs ++ xs) := by
  induction zs with
  | nil => exact refl xs
  | cons z rest ih =>
      exact .insert (hz z List.mem_cons_self) (ih fun y hy => hz y (List.mem_cons_of_mem z hy))

theorem filter (p : α → Bool) (h : Grows kind xs ys) :
    Grows kind (xs.filter p) (ys.filter p) := by
  induction h with
  | atEnd extra => exact .atEnd _
  | keep x _ ih =>
      rw [List.filter_cons, List.filter_cons]
      split
      · exact .keep x ih
      · exact ih
  | @insert x _ _ hx _ ih =>
      rw [List.filter_cons]
      split
      · exact .insert hx ih
      · exact ih

end

end Grows

/-- A list that compiles is one whose first entry and whose rest compile. -/
theorem mapM_cons_eq_ok_iff {α β ε : Type} {f : α → Except ε β} {x : α} {xs : List α}
    {ys : List β} :
    (x :: xs).mapM f = .ok ys ↔ ∃ y rest, f x = .ok y ∧ xs.mapM f = .ok rest ∧ ys = y :: rest := by
  rw [List.mapM_cons]
  cases hx : f x with
  | error e => simp [bind, Except.bind]
  | ok y =>
      cases hrest : xs.mapM f with
      | error e => simp [bind, Except.bind]
      | ok rest => simp [bind, Except.bind, pure, Except.pure, eq_comm]

/-- Where all items of a list succeed, the results are theirs, as a set. -/
theorem mem_iff_of_mapM_eq_ok {α β ε : Type} {f : α → Except ε β} {xs : List α} {ys : List β}
    (h : xs.mapM f = .ok ys) {y : β} : y ∈ ys ↔ ∃ x ∈ xs, f x = .ok y := by
  induction xs generalizing ys with
  | nil =>
      obtain rfl : [] = ys := Except.ok.inj h
      simp
  | cons x rest ih =>
      obtain ⟨first, others, hfirst, hothers, rfl⟩ := mapM_cons_eq_ok_iff.mp h
      simp only [List.mem_cons, exists_eq_or_imp, ih hothers, hfirst, Except.ok.injEq, @eq_comm _ y]

theorem Entry.kind_of_compile_eq_ok {engine : Engine} {e : Entry} {r : Rule}
    (h : e.compile engine = .ok r) :
    r.kind = e.kind := by
  rw [compile] at h
  cases hm : e.matcher engine with
  | error err => simp [hm, Except.map] at h
  | ok m =>
      obtain rfl : (⟨e.kind, e.className, m⟩ : Rule) = r := by simpa [hm, Except.map] using h
      rfl

/-- Compiling keeps the kinds, so the rules of a list that grew have grown. -/
theorem Grows.mapM_compile {engine : Engine} {es fs : List Entry} (h : Grows Entry.kind es fs)
    {rs ss : List Rule} (hr : es.mapM (Entry.compile engine) = .ok rs)
    (hs : fs.mapM (Entry.compile engine) = .ok ss) :
    Grows Rule.kind rs ss := by
  induction h generalizing rs ss with
  | atEnd extra =>
      obtain rfl : [] = rs := Except.ok.inj hr
      exact .atEnd ss
  | keep x _ ih =>
      obtain ⟨r, rest, hx, hrest, rfl⟩ := mapM_cons_eq_ok_iff.mp hr
      obtain ⟨r', rest', hx', hrest', rfl⟩ := mapM_cons_eq_ok_iff.mp hs
      obtain rfl : r = r' := Except.ok.inj (hx.symm.trans hx')
      exact .keep r (ih hrest hrest')
  | insert hx _ ih =>
      obtain ⟨s, rest, hy, hrest, rfl⟩ := mapM_cons_eq_ok_iff.mp hs
      exact .insert (Entry.kind_of_compile_eq_ok hy ▸ hx) (ih hr hrest)

theorem Grows.compile {engine : Engine} {es fs : List Entry} (h : Grows Entry.kind es fs)
    {id url : String} {rs ss : List Rule} (hr : Allow.compile engine es id url = .ok rs)
    (hs : Allow.compile engine fs id url = .ok ss) : Grows Rule.kind rs ss :=
  (h.filter _).mapM_compile hr hs

end Allow

end StylePrune
