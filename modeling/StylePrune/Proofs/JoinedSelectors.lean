import StylePrune.Proofs.Selector.Joining

/-!
# Joined selectors

Decomposition goes combinator by combinator, also on texts that are no selectors: with stray
quotes, brackets, colons and dots, and with escapes that end where the text ends.  A text in
front of a combinator adds its names to those of the text behind it, and it hides no fault there
and brings none in.
-/

namespace StylePrune

namespace Selector

open Text

/-- A text without blanks at its ends. -/
structure IsTight (s : List Char) : Prop where
  ne_nil : s ≠ []
  first : ∀ c ∈ s.head?, isBlank c = false
  last : ∀ c ∈ s.getLast?, isBlank c = false

namespace IsTight

variable {s t : List Char}

theorem trim_eq (h : IsTight s) : trim s = s := by
  obtain ⟨c, rest, hc⟩ := List.exists_cons_of_ne_nil h.ne_nil
  have hfirst : dropBlanks s = s := by
    rw [hc, dropBlanks_cons_of_not_isBlank (h.first c (by simp [hc]))]
  have hlast := trimEnd_snoc (h.last _ (List.getLast?_eq_some_getLast h.ne_nil)) s.dropLast
  rw [List.dropLast_concat_getLast] at hlast
  rw [trim_eq_trimEnd, hfirst, hlast]

theorem append_before (hs : IsTight s) (ht : IsTight t) (k : Sign) :
    IsTight (s ++ k.before t) where
  ne_nil := by simp [hs.ne_nil]
  first c hc := by
    have hfirst : (s ++ k.before t).head? = s.head? := by
      simp [List.head?_append, List.head?_eq_some_head hs.ne_nil]
    exact hs.first c (hfirst ▸ hc)
  last c hc := by
    have hlast : (s ++ k.before t).getLast? = t.getLast? := by
      simp [Sign.before, List.getLast?_append, List.getLast?_cons,
        List.getLast?_eq_some_getLast ht.ne_nil]
    exact ht.last c (hlast ▸ hc)

end IsTight

def Sign.text : Sign → String
  | child => " > "
  | next => " + "
  | later => " ~ "

theorem Sign.toList_append_text (k : Sign) (s t : String) :
    (s ++ k.text ++ t).toList = s.toList ++ k.before t.toList := by
  cases k <;> simp [text, before, char]

/--
The names in two texts with a combinator between them are those of the first and then those of
the second.  If the first can be decomposed, a fault of the whole is that of the second.
-/
theorem decompose_append_sign (k : Sign) {s t : String} {d : Descriptor} (hs : IsTight s.toList)
    (ht : IsTight t.toList) (hslash : s.toList.getLast? ≠ some '\\') (h : decompose s = .ok d) :
    decompose (s ++ k.text ++ t) =
      match decompose t with
      | .ok e =>
          .ok {
            selector := s ++ k.text ++ t
            classes := d.classes ++ e.classes
            ids := d.ids ++ e.ids
            tags := d.tags ++ e.tags
            attrs := d.attrs ++ e.attrs }
      | .error e => .error { selector := s ++ k.text ++ t, fault := e.fault } := by
  have hlist := k.toList_append_text s t
  have htext : String.ofList (s.toList ++ k.before t.toList) = s ++ k.text ++ t := by
    rw [← hlist, String.ofList_toList]
  rw [decompose, hs.trim_eq] at h
  rw [decompose, decompose, hlist, (hs.append_before ht k).trim_eq, ht.trim_eq]
  cases hnames : namesOf s.toList with
  | error fault => rw [hnames] at h; cases h
  | ok names =>
      rw [hnames] at h
      cases h
      rw [namesOf_append_sign hslash hnames, htext]
      cases namesOf t.toList with
      | error fault => rfl
      | ok names' => simp [Except.map, Names.append]

/--
The escape at the end of the first text takes the space in the pass for classes; the second texts
are none that a stylesheet has.
-/
theorem decompose_append_sign_escape :
    decompose "p.a\\31 > :is(#b)[href" = .error ⟨"p.a\\31 > :is(#b)[href", .unbalancedBracket⟩ ∧
      decompose "p.a\\31 > ..x'\\.[href]" =
        .ok ⟨"p.a\\31 > ..x'\\.[href]", ["a1", "x"], [], ["p"], ["href"]⟩ := by
  have hfirst : decompose "p.a\\31" = .ok ⟨"p.a\\31", ["a1"], [], ["p"], []⟩ := by
    with_unfolding_all rfl
  have hopen : decompose ":is(#b)[href" = .error ⟨":is(#b)[href", .unbalancedBracket⟩ := by
    with_unfolding_all rfl
  have hclosed : decompose "..x'\\.[href]" = .ok ⟨"..x'\\.[href]", ["x"], [], [], ["href"]⟩ := by
    with_unfolding_all rfl
  have htight : IsTight "p.a\\31".toList :=
    ⟨by decide, by rintro _ ⟨⟩; decide, by rintro _ ⟨⟩; decide⟩
  constructor
  · have hopenTight : IsTight ":is(#b)[href".toList :=
      ⟨by decide, by rintro _ ⟨⟩; decide, by rintro _ ⟨⟩; decide⟩
    have h := decompose_append_sign .child htight hopenTight (by decide) hfirst
    have htext : "p.a\\31" ++ Sign.child.text ++ ":is(#b)[href" = "p.a\\31 > :is(#b)[href" := by
      decide
    rw [hopen, htext] at h
    exact h
  · have hclosedTight : IsTight "..x'\\.[href]".toList :=
      ⟨by decide, by rintro _ ⟨⟩; decide, by rintro _ ⟨⟩; decide⟩
    have h := decompose_append_sign .child htight hclosedTight (by decide) hfirst
    have htext : "p.a\\31" ++ Sign.child.text ++ "..x'\\.[href]" = "p.a\\31 > ..x'\\.[href]" := by
      decide
    rw [hclosed, htext] at h
    exact h

end Selector

end StylePrune
