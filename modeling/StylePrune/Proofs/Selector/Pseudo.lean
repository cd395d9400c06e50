import StylePrune.Proofs.Selector.Closing
import StylePrune.Proofs.Selector.Spelling

/-!
# Pseudo-classes in front of a mark

A pseudo-class does not go beyond a character that continues no name and opens no argument.
So what the first pass makes of a text is what it makes of the same text in front of such a
character, as long as every argument that opens in the text closes there.
-/

namespace StylePrune

namespace Selector

open Text

/-- A character that no pseudo-class goes beyond. -/
structure EndsPseudo (x : Char) : Prop where
  notName : isNameChar x = false
  ne_colon : x ≠ ':'
  ne_opening : x ≠ '('

theorem endsPseudo_quote : EndsPseudo '"' := ⟨by decide, by decide, by decide⟩

theorem endsPseudo_space : EndsPseudo ' ' := ⟨by decide, by decide, by decide⟩

variable {x : Char} {u argument : List Char}

theorem dropColon_append (hx : x ≠ ':') (u s : List Char) :
    dropColon (u ++ x :: s) = dropColon u ++ x :: s := by
  cases u with
  | nil => exact dropColon.eq_2 _ (by simp [hx])
  | cons c rest =>
      by_cases hc : c = ':'
      · subst hc
        rfl
      · rw [dropColon.eq_2 (c :: rest) (by simp [hc]), List.cons_append,
          dropColon.eq_2 _ (by simp [hc])]

theorem startsPseudo_append (hx : EndsPseudo x) (u s : List Char) :
    startsPseudo (u ++ x :: s) = startsPseudo u := by
  rw [startsPseudo, startsPseudo, dropColon_append hx.ne_colon]
  cases dropColon u with
  | nil => simp [hx.notName]
  | cons c rest => rfl

theorem dropPseudoName_append (hx : EndsPseudo x) (u s : List Char) :
    dropPseudoName (u ++ x :: s) = dropPseudoName u ++ x :: s := by
  rw [dropPseudoName, dropPseudoName, dropColon_append hx.ne_colon]
  generalize dropColon u = w
  induction w with
  | nil => simp [hx.notName]
  | cons c rest ih =>
      rw [List.cons_append, List.dropWhile_cons, List.dropWhile_cons]
      split
      · exact ih
      · rfl

theorem Avoids.dropPseudoName (h : Avoids x u) : Avoids x (dropPseudoName u) := by
  have hcolon : Avoids x (dropColon u) := by
    fun_cases dropColon u with
    | case1 rest => exact h.of_cons (by decide)
    | case2 => exact h
  rw [Selector.dropPseudoName]
  generalize dropColon u = w at hcolon
  induction w with
  | nil => exact hcolon
  | cons c rest ih =>
      rw [List.dropWhile_cons]
      split
      · rename_i hc
        exact ih (hcolon.of_cons (ne_of_isNameChar hc (by decide)))
      · exact hcolon

theorem Avoids.of_dropPseudoName (h : Avoids x (':' :: u))
    (hu : Selector.dropPseudoName u = '(' :: argument) : Avoids x argument := by
  have hargument := (h.of_cons (by decide)).dropPseudoName
  rw [hu] at hargument
  exact hargument.of_cons (by decide)

/-! ## One step of the pass -/

theorem withoutPseudo_cons_append (hx : EndsPseudo x) {c : Char} (hc : c ≠ '\\')
    (h : ¬(c = ':' ∧ startsPseudo u = true)) (s : List Char) :
    withoutPseudo (c :: u ++ x :: s) = (withoutPseudo (u ++ x :: s)).map (c :: ·) := by
  rw [List.cons_append, withoutPseudo_cons hc (by rwa [startsPseudo_append hx])]

theorem withoutPseudo_bare_append (hx : EndsPseudo x) (h : startsPseudo u = true)
    (hu : ∀ argument, dropPseudoName u ≠ '(' :: argument) (s : List Char) :
    withoutPseudo (':' :: u ++ x :: s) = withoutPseudo (dropPseudoName u ++ x :: s) := by
  have hhead : (dropPseudoName (u ++ x :: s)).head? ≠ some '(' := by
    rw [dropPseudoName_append hx]
    cases hd : dropPseudoName u with
    | nil => simp [hx.ne_opening]
    | cons d rest =>
        rw [List.cons_append, List.head?_cons, Ne, Option.some_inj]
        rintro rfl
        exact hu rest hd
  rw [List.cons_append, withoutPseudo_bare (by rwa [startsPseudo_append hx]) hhead,
    dropPseudoName_append hx]

/-- An argument that closes in front of the mark closes there whatever follows. -/
theorem withoutPseudo_call_append (hx : EndsPseudo x) {inside after : List Char}
    (h : startsPseudo u = true) (hu : dropPseudoName u = '(' :: argument)
    (hclose : splitClosing? '(' ')' argument = some (inside, after)) (s : List Char) :
    withoutPseudo (':' :: u ++ x :: s) = withoutPseudo (after ++ x :: s) := by
  rw [List.cons_append, withoutPseudo_call (by rwa [startsPseudo_append hx])
    (by rw [dropPseudoName_append hx, hu, List.cons_append])
    (splitClosing?_append_of_eq_some hclose _)]

theorem withoutPseudo_open_append (hx : EndsPseudo x) (h : startsPseudo u = true)
    (hu : dropPseudoName u = '(' :: argument) {s : List Char}
    (hopen : splitClosing? '(' ')' (argument ++ x :: s) = none) :
    withoutPseudo (':' :: u ++ x :: s) = .error .unbalancedParenthesis := by
  rw [List.cons_append, withoutPseudo_open (by rwa [startsPseudo_append hx])
    (by rw [dropPseudoName_append hx, hu, List.cons_append]) hopen]

/-! ## The pass -/

/--
In front of `x` the first pass leaves `left` of the text `u`, whatever follows, and what it
leaves avoids `y`.
-/
structure LeavesBefore (x y : Char) (u left : List Char) : Prop where
  avoids : Avoids y left
  eq : ∀ s, withoutPseudo (u ++ x :: s) = (withoutPseudo (x :: s)).map (left ++ ·)

namespace LeavesBefore

variable {y : Char} {left : List Char}

theorem nil : LeavesBefore x y [] [] := by
  refine ⟨.nil, fun s => ?_⟩
  rw [List.nil_append]
  cases withoutPseudo (x :: s) <;> rfl

theorem escape (h : LeavesBefore x y u left) (c : Char) :
    LeavesBefore x y ('\\' :: c :: u) ('\\' :: c :: left) := by
  refine ⟨.escape c h.avoids, fun s => ?_⟩
  rw [List.cons_append, List.cons_append, withoutPseudo_escape, h.eq]
  cases withoutPseudo (x :: s) <;> rfl

theorem copy (hx : EndsPseudo x) (h : LeavesBefore x y u left) {c : Char} (hslash : c ≠ '\\')
    (hc : c ≠ y) (hp : ¬(c = ':' ∧ startsPseudo u = true)) :
    LeavesBefore x y (c :: u) (c :: left) := by
  refine ⟨.cons hslash hc h.avoids, fun s => ?_⟩
  rw [withoutPseudo_cons_append hx hslash hp, h.eq]
  cases withoutPseudo (x :: s) <;> rfl

theorem bare (hx : EndsPseudo x) (hs : startsPseudo u = true)
    (hu : ∀ argument, dropPseudoName u ≠ '(' :: argument)
    (h : LeavesBefore x y (dropPseudoName u) left) : LeavesBefore x y (':' :: u) left :=
  ⟨h.avoids, fun s => by rw [withoutPseudo_bare_append hx hs hu, h.eq]⟩

theorem call (hx : EndsPseudo x) {inside after : List Char} (hs : startsPseudo u = true)
    (hu : dropPseudoName u = '(' :: argument)
    (hclose : splitClosing? '(' ')' argument = some (inside, after))
    (h : LeavesBefore x y after left) : LeavesBefore x y (':' :: u) left :=
  ⟨h.avoids, fun s => by rw [withoutPseudo_call_append hx hs hu hclose, h.eq]⟩

/-- What the first pass makes of a text alone, it makes of it in front of `x`. -/
theorem of_withoutPseudo (hx : EndsPseudo x) (h : Avoids y u) (hu : withoutPseudo u = .ok left) :
    LeavesBefore x y u left := by
  fun_induction withoutPseudo u generalizing left with
  | case1 =>
      obtain rfl := Except.ok.inj hu
      exact .nil
  | case2 =>
      cases h with
      | cons hslash => exact absurd rfl hslash
  | case3 c rest ih =>
      obtain ⟨w, hrest, hu⟩ := exists_of_bind_eq_ok hu
      obtain rfl := Except.ok.inj hu
      cases h with
      | escape _ hs => exact (ih hs hrest).escape c
      | cons hslash => exact absurd rfl hslash
  | case4 c rest _ _ hp argument harg inside after hclose ih =>
      obtain ⟨rfl, hs⟩ := hp
      exact .call hx hs harg hclose (ih ((h.of_dropPseudoName harg).of_splitClosing? hclose) hu)
  | case5 => cases hu
  | case6 c rest _ _ hp hbare ih =>
      obtain ⟨rfl, hs⟩ := hp
      exact .bare hx hs hbare (ih (h.of_cons (by decide)).dropPseudoName hu)
  | case7 c rest hlast hmore hp ih =>
      obtain ⟨w, hrest, hu⟩ := exists_of_bind_eq_ok hu
      obtain rfl := Except.ok.inj hu
      cases h with
      | escape d => exact (hmore _ _ rfl rfl).elim
      | cons hslash hy hs => exact (ih hs hrest).copy hx hslash hy hp

end LeavesBefore

end Selector

end StylePrune
