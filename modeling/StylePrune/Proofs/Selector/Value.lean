import StylePrune.Proofs.Selector.Pseudo
import StylePrune.Proofs.Selector.RoundTrip

/-!
# Values of attribute selectors

The first pass sees no strings, so it takes what looks like a pseudo-class from the value of an
attribute selector.  It stays inside the value where the brackets that it opens there close
there; then what it leaves is the text of a string again.
-/

namespace StylePrune

namespace Selector

open Text

/-! ## Values -/

/-- The brackets that the first pass opens in a value close in the value. -/
def IsTame (v : List Char) : Prop :=
  ∃ left, withoutPseudo (v.flatMap quotedChar) = .ok left

/-- A text without round brackets has no fault for the first pass. -/
theorem exists_withoutPseudo_eq_ok {u : List Char} (h : '(' ∉ u) :
    ∃ left, withoutPseudo u = .ok left := by
  fun_induction withoutPseudo u with
  | case1 | case2 => exact ⟨_, rfl⟩
  | case3 c rest ih =>
      obtain ⟨left, hleft⟩ := ih fun hm => h (by simp [hm])
      exact ⟨'\\' :: c :: left, by rw [hleft]; rfl⟩
  | case4 c rest _ _ _ argument harg | case5 c rest _ _ _ argument harg =>
      refine absurd (List.mem_cons_of_mem c ?_) h
      exact mem_of_mem_dropPseudoName (by rw [harg]; exact List.mem_cons_self)
  | case6 c rest _ _ _ _ ih =>
      exact ih fun hm => h (List.mem_cons_of_mem c (mem_of_mem_dropPseudoName hm))
  | case7 c rest _ _ _ ih =>
      obtain ⟨left, hleft⟩ := ih fun hm => h (List.mem_cons_of_mem c hm)
      exact ⟨c :: left, by rw [hleft]; rfl⟩

theorem isTame_of_not_mem {v : List Char} (h : '(' ∉ v) : IsTame v := by
  refine exists_withoutPseudo_eq_ok fun hm => ?_
  obtain ⟨c, hc, hmem⟩ := List.mem_flatMap.mp hm
  rw [quotedChar] at hmem
  split at hmem
  · rename_i hquoted
    rcases hquoted with rfl | rfl <;> simp at hmem
  · exact h (List.mem_singleton.mp hmem ▸ hc)

/-! ## Brackets that stay open -/

/-- Behind a bracket that stays open in a string there is none that closes it. -/
theorem charsBeforeClosing?_end_of_string {u : List Char} (h : Avoids '"' u)
    {quote : Option Char} {depth : Nat} (hquote : quote ≠ some '"')
    (hu : charsBeforeClosing? '(' ')' quote depth u = none) :
    charsBeforeClosing? '(' ')' quote depth (u ++ ['"', ']']) = none := by
  induction u using token_induction generalizing quote depth with
  | nil =>
      have hquoted : isQuote '"' = true := rfl
      cases quote with
      | none => simp [charsBeforeClosing?_outside, charsBeforeClosing?_inside, hquoted,
          charsBeforeClosing?_nil]
      | some q =>
          have hq : '"' ≠ q := fun he => hquote (he ▸ rfl)
          simp [charsBeforeClosing?_inside, hq, charsBeforeClosing?_nil]
  | slash =>
      cases h with
      | cons hslash => exact absurd rfl hslash
  | escape c u ih =>
      rw [charsBeforeClosing?_escape, Option.map_eq_none_iff] at hu
      cases h with
      | escape _ hs =>
          rw [List.cons_append, List.cons_append, charsBeforeClosing?_escape, ih hs hquote hu]
          rfl
      | cons hslash => exact absurd rfl hslash
  | char c u hc ih =>
      rw [charsBeforeClosing?_cons hc] at hu
      rw [List.cons_append, charsBeforeClosing?_cons hc]
      cases hafter : afterChar? '(' ')' quote depth c with
      | none => rw [hafter] at hu; cases hu
      | some state =>
          rw [hafter, Option.map_eq_none_iff] at hu
          have hc' : c ≠ '"' := by
            cases h with
            | escape => exact absurd rfl hc
            | cons _ hx _ => exact hx
          simp only [ih (h.of_cons hc) (afterChar?_fst_ne hc' hquote hafter) hu]
          rfl

/-- A bracket that the first pass opens in a string and does not close there is a fault. -/
theorem exists_error_of_withoutPseudo {u : List Char} (h : Avoids '"' u) {fault : Fault}
    (hu : withoutPseudo u = .error fault) : ∃ f, withoutPseudo (u ++ ['"', ']']) = .error f := by
  fun_induction withoutPseudo u with
  | case1 | case2 => cases hu
  | case3 c rest ih =>
      cases h with
      | escape _ hs =>
          cases hrest : withoutPseudo rest with
          | ok left => rw [hrest] at hu; cases hu
          | error f =>
              obtain ⟨g, hg⟩ := ih hs (hrest.trans (by rw [hrest] at hu; exact hu))
              exact ⟨g, by rw [List.cons_append, List.cons_append, withoutPseudo_escape, hg]; rfl⟩
      | cons hslash => exact absurd rfl hslash
  | case4 c rest _ _ hp argument harg inside after hclose ih =>
      obtain ⟨rfl, hs⟩ := hp
      obtain ⟨g, hg⟩ := ih ((h.of_dropPseudoName harg).of_splitClosing? hclose) hu
      exact ⟨g, by rw [withoutPseudo_call_append endsPseudo_quote hs harg hclose, hg]⟩
  | case5 c rest hlast hmore hp argument harg hopen =>
      obtain ⟨rfl, hs⟩ := hp
      have hnone := charsBeforeClosing?_end_of_string (h.of_dropPseudoName harg) (by simp)
        (Option.map_eq_none_iff.mp hopen)
      exact ⟨_, withoutPseudo_open_append endsPseudo_quote hs harg
        (Option.map_eq_none_iff.mpr hnone)⟩
  | case6 c rest _ _ hp hbare ih =>
      obtain ⟨rfl, hs⟩ := hp
      obtain ⟨g, hg⟩ := ih (h.of_cons (by decide)).dropPseudoName hu
      exact ⟨g, by rw [withoutPseudo_bare_append endsPseudo_quote hs hbare, hg]⟩
  | case7 c rest hlast hmore hp ih =>
      cases hrest : withoutPseudo rest with
      | ok left => rw [hrest] at hu; cases hu
      | error f =>
          cases h with
          | escape d => exact (hmore _ _ rfl rfl).elim
          | cons hslash hquote hs =>
              obtain ⟨g, hg⟩ := ih hs (hrest.trans (by rw [hrest] at hu; exact hu))
              exact ⟨g, by rw [withoutPseudo_cons_append endsPseudo_quote hslash hp, hg]; rfl⟩

end Selector

end StylePrune
