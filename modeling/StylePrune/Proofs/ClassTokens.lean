import StylePrune.Html.Lexer
import StylePrune.Html.Recorder
import StylePrune.Proofs.Inclusion
import StylePrune.Proofs.Markup.Growth
import StylePrune.Proofs.Selector.RoundTrip
import StylePrune.Proofs.Text.Words

/-!
# Class tokens

A class attribute names classes separated by ASCII white space, but the recorder separates them
at every blank.  A class without blanks is recorded and its selector is kept; a class with a
blank outside ASCII is never recorded.
-/

namespace StylePrune

namespace Html

open Text

/-- A maximal run of characters of a class attribute that are no ASCII white space. -/
structure IsClassToken (value token : List Char) : Prop where
  ne_nil : token ≠ []
  notSpace : ∀ c ∈ token, isSpace c = false
  maximal : ∃ before after, value = before ++ (token ++ after) ∧
    (∀ c ∈ before.getLast?, isSpace c = true) ∧ (∀ c ∈ after.head?, isSpace c = true)

theorem isBlank_of_isSpace {c : Char} (h : isSpace c = true) : isBlank c = true := by
  simp only [isSpace, Bool.or_eq_true, beq_iff_eq] at h
  rcases h with (((rfl | rfl) | rfl) | rfl) | rfl <;> rfl

theorem IsClassToken.mem_words {value token : List Char} (h : IsClassToken value token)
    (hblank : ∀ c ∈ token, isBlank c = false) : token ∈ words value := by
  obtain ⟨before, after, rfl, hbefore, hafter⟩ := h.maximal
  exact Text.mem_words h.ne_nil hblank (fun c hc => isBlank_of_isSpace (hbefore c hc))
    fun c hc => isBlank_of_isSpace (hafter c hc)

namespace Recorder

/-! ## Runs of the recorder -/

section

variable {used : Profile} {attr : Attribute} {attrs : List Attribute}

theorem within_recordAttr (used : Profile) (attr : Attribute) :
    used.Within (recordAttr used attr) := by
  unfold recordAttr
  split
  · refine ⟨?_, fun _ h => h, fun _ h => h⟩
    intro name hname
    exact NameSet.mem_insertMany.mpr (.inr hname)
  · split
    · dsimp only
      split
      · exact .refl used
      · refine ⟨fun _ h => h, fun _ h => h, ?_⟩
        intro name hname
        exact NameSet.mem_insert.mpr (.inr hname)
    · exact .refl used

theorem within_recordAttrs (used : Profile) (attrs : List Attribute) :
    used.Within (recordAttrs used attrs) := by
  induction attrs generalizing used with
  | nil => exact .refl used
  | cons attr rest ih => exact (within_recordAttr used attr).trans (ih _)

/-- Of a class attribute the words are recorded. -/
theorem mem_classes_recordAttrs (hattr : attr ∈ attrs) (hname : attr.name = "class")
    {word : List Char} (hword : word ∈ words attr.value.toList) :
    String.ofList word ∈ (recordAttrs used attrs).classes := by
  obtain ⟨before, after, rfl⟩ := List.append_of_mem hattr
  rw [recordAttrs, List.foldl_append, List.foldl_cons]
  refine (within_recordAttrs _ after).classes _ ?_
  rw [recordAttr, if_pos hname]
  exact NameSet.mem_insertMany.mpr (.inl (List.mem_map_of_mem hword))

end

theorem within_receive (r : Recorder) (call : Call) :
    r.used.Within (r.receive call).2.used := by
  cases call with
  | createElement name attrs =>
      have htag : r.used.Within (r.used.insertTag name.name) := by
        refine ⟨fun _ h => h, ?_, fun _ h => h⟩
        intro tag h
        exact NameSet.mem_insert.mpr (.inr h)
      exact htag.trans (within_recordAttrs _ attrs)
  | addAttrsIfMissing target attrs => exact within_recordAttrs r.used attrs
  | _ => exact .refl r.used

theorem within_run (r : Recorder) (calls : List Call) : r.used.Within (r.run calls).used := by
  induction calls generalizing r with
  | nil => exact .refl r.used
  | cons call rest ih => exact (within_receive r call).trans (ih (r.receive call).2)

theorem mem_classes_receive {r : Recorder} {call : Call} {attr : Attribute}
    (hattr : attr ∈ call.attrs) (hname : attr.name = "class") {word : List Char}
    (hword : word ∈ words attr.value.toList) :
    String.ofList word ∈ (r.receive call).2.used.classes := by
  cases call with
  | createElement name attrs => exact mem_classes_recordAttrs hattr hname hword
  | addAttrsIfMissing target attrs => exact mem_classes_recordAttrs hattr hname hword
  | _ => cases hattr

/-- What was recorded of an element stays recorded. -/
theorem mem_classes_run {r : Recorder} {before after : List Call} {call : Call}
    {attr : Attribute} (hattr : attr ∈ call.attrs) (hname : attr.name = "class")
    {word : List Char} (hword : word ∈ words attr.value.toList) :
    String.ofList word ∈ (r.run (before ++ call :: after)).used.classes := by
  rw [run, List.foldl_append, List.foldl_cons]
  exact (within_run _ after).classes _ (mem_classes_receive hattr hname hword)

/-! ## Recorded classes have no blanks -/

/-- No class of the profile has a blank. -/
def Unblank (p : Profile) : Prop :=
  ∀ name ∈ p.classes, ∀ c ∈ name.toList, isBlank c = false

theorem Unblank.recordAttr {p : Profile} (h : Unblank p) (attr : Attribute) :
    Unblank (Recorder.recordAttr p attr) := by
  unfold Recorder.recordAttr
  split
  · intro name hname
    rcases NameSet.mem_insertMany.mp hname with hname | hname
    · obtain ⟨word, hword, rfl⟩ := List.mem_map.mp hname
      rw [String.toList_ofList]
      exact not_isBlank_of_mem_words hword
    · exact h name hname
  · split
    · dsimp only
      split
      · exact h
      · exact h
    · exact h

theorem Unblank.recordAttrs {p : Profile} (h : Unblank p) (attrs : List Attribute) :
    Unblank (Recorder.recordAttrs p attrs) := by
  induction attrs generalizing p with
  | nil => exact h
  | cons attr rest ih => exact ih (h.recordAttr attr)

theorem Unblank.receive {r : Recorder} (h : Unblank r.used) (call : Call) :
    Unblank (r.receive call).2.used := by
  cases call with
  | createElement name attrs =>
      have htag : Unblank (r.used.insertTag name.name) := h
      exact htag.recordAttrs attrs
  | addAttrsIfMissing target attrs => exact h.recordAttrs attrs
  | _ => exact h

theorem Unblank.run {r : Recorder} (h : Unblank r.used) (calls : List Call) :
    Unblank (r.run calls).used := by
  induction calls generalizing r with
  | nil => exact h
  | cons call rest ih => exact ih (h.receive call)

end Recorder

end Html

namespace Inclusion

open Html Selector

def classSelector (label : Label) : Canonical :=
  ⟨⟨.nothing, [.cls label]⟩, []⟩

theorem text_classSelector (label : Label) :
    (classSelector label).text = String.ofList ('.' :: serializeName label.chars) := by
  simp [classSelector, Canonical.text, Canonical.print, Compound.print, Head.print, Part.print]

/-- The selector of a class that is used is kept. -/
theorem includes_classSelector {m : Inclusion} {label : Label}
    (h : String.ofList label.chars ∈ m.profile.classes) :
    m.includes (.ofNames (classSelector label).text (classSelector label).names) = true := by
  apply includes_of_uses
  have hclass : m.profile.hasAllClasses [String.ofList label.chars] = true := by
    rw [Profile.hasAllClasses, NameSet.containsAll_iff]
    intro name hname
    obtain rfl := List.mem_singleton.mp hname
    exact h
  rw [Profile.uses, Bool.and_eq_true, Bool.and_eq_true]
  exact ⟨⟨hclass, rfl⟩, rfl⟩

/--
Whatever else is recorded, a class of an element that has no blanks and no NUL is recorded, and
its selector decomposes and is kept for every catalog and every allow list by every profile that
has what was recorded.  From an empty start exactly the classes without blanks are recorded.
-/
theorem includes_of_isClassToken (before after : List Recorder.Call) (call : Recorder.Call)
    (attr : Attribute) (hattr : attr ∈ call.attrs) (hname : attr.name = "class")
    (token : List Char) (htoken : IsClassToken attr.value.toList token) :
    (∀ r : Recorder, (∀ c ∈ token, Text.isBlank c = false) → (∀ c ∈ token, c.toNat ≠ 0) →
      ∃ d, decompose (String.ofList ('.' :: serializeName token)) = .ok d ∧
        ∀ (p : Profile) (catalog : Catalog) (allow : List Allow.Rule),
          (r.run (before ++ call :: after)).used.Within p →
          includes ⟨p, catalog, allow⟩ d = true) ∧
    (String.ofList token ∈ (Recorder.start.run (before ++ call :: after)).used.classes ↔
      ∀ c ∈ token, Text.isBlank c = false) := by
  refine ⟨?_, ?_⟩
  · intro r hblank hnul
    let label : Label := ⟨token, htoken.ne_nil, hblank, hnul⟩
    have hused : String.ofList token ∈ (r.run (before ++ call :: after)).used.classes :=
      Recorder.mem_classes_run hattr hname (htoken.mem_words hblank)
    refine ⟨.ofNames (classSelector label).text (classSelector label).names, ?_, ?_⟩
    · rw [← text_classSelector label]
      exact (classSelector label).reads_trim.decompose_eq
    · intro p catalog allow hp
      exact includes_classSelector (hp.classes _ hused)
  · constructor
    · intro hused c hc
      have hstart : Recorder.Unblank Recorder.start.used :=
        fun name h => absurd h (NameSet.not_mem_empty name)
      have hrun := hstart.run (before ++ call :: after)
      exact hrun _ hused c (by rwa [String.toList_ofList])
    · intro hblank
      exact Recorder.mem_classes_run hattr hname (htoken.mem_words hblank)

/-- A paragraph with a class that is written with an escape. -/
def cardCall : Recorder.Call :=
  .createElement (.mk .html "p") [⟨"class", "\tx sm:card\n"⟩]

/-- The class of a paragraph between two other elements is found by its selector. -/
theorem includes_of_isClassToken_card :
    let calls := [.createElement (.mk .html "b") [], cardCall, .createElement (.mk .html "i") []]
    let used := (Recorder.start.run calls).used
    IsClassToken "\tx sm:card\n".toList "sm:card".toList ∧
      ∃ d, decompose ".sm\\:card" = .ok d ∧
        ∀ catalog allow, includes ⟨used.withCatalog catalog, catalog, allow⟩ d = true := by
  intro calls used
  have htoken : IsClassToken "\tx sm:card\n".toList "sm:card".toList := by
    refine ⟨by decide, by simp [isSpace], "\tx ".toList, "\n".toList, by decide, ?_, ?_⟩
    · simp [isSpace]
    · simp [isSpace]
  have hattr : ⟨"class", "\tx sm:card\n"⟩ ∈ cardCall.attrs := List.mem_cons_self
  obtain ⟨hkept, -⟩ := includes_of_isClassToken [.createElement (.mk .html "b") []]
    [.createElement (.mk .html "i") []] cardCall _ hattr rfl _ htoken
  obtain ⟨d, hd, hall⟩ := hkept Recorder.start (by simp [Text.isBlank]) (by simp)
  have htext : String.ofList ('.' :: serializeName "sm:card".toList) = ".sm\\:card" := by
    decide +kernel
  rw [htext] at hd
  refine ⟨htoken, d, hd, fun catalog allow => ?_⟩
  exact hall _ catalog allow (Profile.within_withCatalog used catalog)

/-- A class with a no-break space is dropped for the page that uses it. -/
theorem not_includes_noBreakSpace :
    let call : Recorder.Call := .createElement (.mk .html "p") [⟨"class", "a\u00a0b"⟩]
    let used := (Recorder.start.run [call]).used
    IsClassToken "a\u00a0b".toList "a\u00a0b".toList ∧
      (∀ c ∈ "a\u00a0b".toList, c.toNat ≠ 0) ∧
      ∃ d, decompose (String.ofList ('.' :: serializeName "a\u00a0b".toList)) = .ok d ∧
        includes ⟨used.withCatalog .minimal, .minimal, []⟩ d = false := by
  intro call used
  refine ⟨?_, by simp, ⟨".a\u00a0b", ["a\u00a0b"], [], [], []⟩, ?_, by decide +kernel⟩
  · exact ⟨by decide, by simp [isSpace], [], [], by decide, by simp, by simp⟩
  · with_unfolding_all rfl

end Inclusion

end StylePrune
