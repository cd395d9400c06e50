import StylePrune.Html.Recorder
import StylePrune.Proofs.Markup.Growth
import StylePrune.Proofs.Text.Words

/-!
# Exact recording

In whatever order tree construction calls the recorder, the handles that it hands out differ and
none is that of the document, the name of a node is the one that it was created with, and the
profile has the names of the calls about elements and no other ones.
-/

namespace StylePrune

namespace Html

open Text

namespace Recorder

/-! ## Handles -/

def Call.created? : Call → Option ElementName
  | .createElement name _ => some name
  | .createComment _ => some .blank
  | .createInstruction _ _ => some .blank
  | _ => none

def Answer.handle? : Answer → Option Handle
  | .handle h => some h
  | _ => none

/-- The handle that is answered to a call which creates a node, with the name of the node. -/
def given? (r : Recorder) (call : Call) : Option (Handle × ElementName) := do
  let name ← call.created?
  let handle ← (r.receive call).1.handle?
  return (handle, name)

def given (r : Recorder) : List Call → List (Handle × ElementName)
  | [] => []
  | call :: rest => (r.given? call).toList ++ given (r.receive call).2 rest

theorem run_append (r : Recorder) (calls later : List Call) :
    r.run (calls ++ later) = (r.run calls).run later :=
  List.foldl_append

/-- A call that creates a node answers the next handle and remembers the name; another call
leaves the names alone. -/
theorem receive_names (r : Recorder) (call : Call) :
    (∃ name, r.given? call = some (r.names.size, name.getD .blank) ∧
        call.created? = some (name.getD .blank) ∧
        (r.receive call).2.names = r.names.push name) ∨
      (r.given? call = none ∧ call.created? = none ∧ (r.receive call).2.names = r.names) := by
  cases call with
  | createElement name attrs => exact .inl ⟨some name, rfl, rfl, rfl⟩
  | createComment text => exact .inl ⟨none, rfl, rfl, rfl⟩
  | createInstruction target data => exact .inl ⟨none, rfl, rfl, rfl⟩
  | _ => exact .inr ⟨rfl, rfl, rfl⟩

/-- Every call that creates a node is answered with a handle. -/
theorem map_snd_given (r : Recorder) (calls : List Call) :
    (r.given calls).map Prod.snd = calls.filterMap Call.created? := by
  induction calls generalizing r with
  | nil => rfl
  | cons call rest ih =>
      rw [given, List.map_append, ih, List.filterMap_cons]
      rcases receive_names r call with ⟨name, hgiven, hcreated, -⟩ | ⟨hgiven, hcreated, -⟩
      · rw [hgiven, hcreated]
        rfl
      · rw [hgiven, hcreated]
        rfl

/-- The handles go up by one from the number of names. -/
theorem map_fst_given (r : Recorder) (calls : List Call) :
    (r.given calls).map Prod.fst = List.range' r.names.size (r.given calls).length := by
  induction calls generalizing r with
  | nil => rfl
  | cons call rest ih =>
      rw [given, List.map_append, ih, List.length_append]
      rcases receive_names r call with ⟨name, hgiven, -, hnames⟩ | ⟨hgiven, -, hnames⟩
      · rw [hgiven, hnames, Array.size_push]
        simp only [Option.toList_some, List.map_cons, List.map_nil, List.length_cons,
          List.length_nil, List.singleton_append, Nat.zero_add]
        rw [Nat.add_comm 1, List.range'_succ]
      · rw [hgiven, hnames]
        simp

/-! ## Names -/

/-- A run adds the names of the nodes that it creates, in order. -/
theorem exists_names_run (r : Recorder) (calls : List Call) :
    ∃ names : List (Option ElementName), (r.run calls).names = r.names ++ names.toArray ∧
      (r.given calls).map Prod.snd = names.map (·.getD .blank) := by
  induction calls generalizing r with
  | nil => exact ⟨[], by simp [run], rfl⟩
  | cons call rest ih =>
      obtain ⟨names, hrun, hgiven⟩ := ih (r.receive call).2
      have hstep : r.run (call :: rest) = (r.receive call).2.run rest := rfl
      rw [hstep, hrun, given, List.map_append, hgiven]
      rcases receive_names r call with ⟨name, hcall, -, hnames⟩ | ⟨hcall, -, hnames⟩
      · refine ⟨name :: names, ?_, ?_⟩
        · rw [hnames]
          simp
        · rw [hcall]
          rfl
      · exact ⟨names, by rw [hnames], by simp [hcall]⟩

theorem nameOf_eq (r : Recorder) (h : Handle) :
    r.nameOf h = ((r.names[h]?).join).getD .blank := rfl

/-- Later calls do not change the name of a node. -/
theorem nameOf_run_of_lt {r : Recorder} {h : Handle} (hh : h < r.names.size)
    (calls : List Call) : (r.run calls).nameOf h = r.nameOf h := by
  obtain ⟨names, hrun, -⟩ := exists_names_run r calls
  rw [nameOf_eq, nameOf_eq, hrun, Array.getElem?_append_left hh]

/-- A handle that was handed out has the name that its node was created with. -/
theorem nameOf_run_of_mem_given {r : Recorder} {calls : List Call} {h : Handle}
    {name : ElementName} (hmem : (h, name) ∈ r.given calls) :
    h < (r.run calls).names.size ∧ (r.run calls).nameOf h = name := by
  induction calls generalizing r with
  | nil => cases hmem
  | cons call rest ih =>
      rw [given] at hmem
      have hstep : r.run (call :: rest) = (r.receive call).2.run rest := rfl
      rcases List.mem_append.mp hmem with hmem | hmem
      · rcases receive_names r call with ⟨created, hgiven, -, hnames⟩ | ⟨hgiven, -⟩
        · -- The call itself hands it out, and the rest of the run leaves it alone.
          obtain ⟨rfl, rfl⟩ : h = r.names.size ∧ name = created.getD .blank := by
            simpa [hgiven] using hmem
          have hlt : r.names.size < (r.receive call).2.names.size := by
            rw [hnames, Array.size_push]
            exact Nat.lt_succ_self _
          obtain ⟨names, hrun, -⟩ := exists_names_run (r.receive call).2 rest
          refine ⟨?_, ?_⟩
          · rw [hstep, hrun, Array.size_append]
            exact Nat.lt_of_lt_of_le hlt (Nat.le_add_right _ _)
          · rw [hstep, nameOf_run_of_lt hlt, nameOf_eq, hnames, Array.getElem?_push_size]
            rfl
        · simp [hgiven] at hmem
      · rw [hstep]
        exact ih hmem

/-- The names are those of the document and of the handles that were handed out. -/
theorem size_names_run_start (calls : List Call) :
    (start.run calls).names.size = (start.given calls).length + 1 := by
  obtain ⟨names, hrun, hgiven⟩ := exists_names_run start calls
  have hlength := congrArg List.length hgiven
  rw [List.length_map, List.length_map] at hlength
  rw [hrun, hlength, Array.size_append, List.size_toArray]
  exact Nat.add_comm _ _

/-- The document and handles that nobody was handed have the blank name. -/
theorem nameOf_run_start_of_not_mem {calls : List Call} {h : Handle}
    (hh : h ∉ (start.given calls).map Prod.fst) : (start.run calls).nameOf h = .blank := by
  cases h with
  | zero => exact nameOf_run_of_lt (r := start) (by decide) calls
  | succ h =>
      have hsize := size_names_run_start calls
      have hstart : start.names.size = 1 := rfl
      rw [map_fst_given, hstart, List.mem_range'_1] at hh
      have hnone : (start.run calls).names[h + 1]? = none :=
        Array.getElem?_eq_none (by omega)
      rw [nameOf_eq, hnone]
      rfl

/-! ## Profiles -/

/-- A call that says something of the attributes of an element. -/
def Call.tellsOfElement : Call → Bool
  | .createElement _ _ => true
  | .addAttrsIfMissing _ _ => true
  | _ => false

def Call.tag? : Call → Option String
  | .createElement name _ => some name.name
  | _ => none

/-- A class of an attribute: a word of its value. -/
def IsClassOf (attr : Attribute) (name : String) : Prop :=
  attr.name = "class" ∧ IsWord attr.value.toList name.toList

/-- The id of an attribute: its value without blanks at the ends, unless nothing is left. -/
def IsIdOf (attr : Attribute) (name : String) : Prop :=
  attr.name = "id" ∧ name = trimString attr.value ∧ name ≠ ""

theorem mem_map_words_iff {s : List Char} {name : String} :
    name ∈ (words s).map String.ofList ↔ IsWord s name.toList := by
  rw [← mem_words_iff, List.mem_map]
  constructor
  · rintro ⟨w, hw, rfl⟩
    rwa [String.toList_ofList]
  · intro h
    exact ⟨name.toList, h, String.ofList_toList⟩

theorem mem_recordAttr_iff (used : Profile) (attr : Attribute) (name : String) :
    (name ∈ (recordAttr used attr).classes ↔ IsClassOf attr name ∨ name ∈ used.classes) ∧
      (name ∈ (recordAttr used attr).ids ↔ IsIdOf attr name ∨ name ∈ used.ids) ∧
      (recordAttr used attr).tags = used.tags := by
  unfold recordAttr IsClassOf IsIdOf
  by_cases hclass : attr.name = "class"
  · have hid : attr.name ≠ "id" := by simp [hclass]
    rw [if_pos hclass]
    refine ⟨?_, ?_, rfl⟩
    · simp [Profile.withClasses, mem_map_words_iff, hclass]
    · simp [Profile.withClasses, hid]
  · rw [if_neg hclass]
    by_cases hid : attr.name = "id"
    · rw [if_pos hid]
      by_cases hblank : trimString attr.value = ""
      · refine ⟨by simp [hblank, hclass], ?_, by simp [hblank]⟩
        simp only [if_pos hblank]
        grind
      · refine ⟨by simp [hblank, hclass, Profile.insertId], ?_, by simp [hblank, Profile.insertId]⟩
        simp only [if_neg hblank, Profile.insertId, NameSet.mem_insert]
        grind
    · rw [if_neg hid]
      exact ⟨by simp [hclass], by simp [hid], rfl⟩

theorem mem_recordAttrs_iff (used : Profile) (attrs : List Attribute) (name : String) :
    (name ∈ (recordAttrs used attrs).classes ↔
        (∃ attr ∈ attrs, IsClassOf attr name) ∨ name ∈ used.classes) ∧
      (name ∈ (recordAttrs used attrs).ids ↔
        (∃ attr ∈ attrs, IsIdOf attr name) ∨ name ∈ used.ids) ∧
      (recordAttrs used attrs).tags = used.tags := by
  induction attrs generalizing used with
  | nil => simp [recordAttrs]
  | cons attr rest ih =>
      have hstep : recordAttrs used (attr :: rest) = recordAttrs (recordAttr used attr) rest := rfl
      obtain ⟨hclasses, hids, htags⟩ := ih (recordAttr used attr)
      obtain ⟨hclass, hid, htag⟩ := mem_recordAttr_iff used attr name
      rw [hstep, hclasses, hids, htags, hclass, hid, htag]
      simp only [List.mem_cons, exists_eq_or_imp, or_assoc, or_left_comm, and_self]

/-- What a call adds to the profile. -/
theorem mem_receive_iff (r : Recorder) (call : Call) (name : String) :
    (name ∈ (r.receive call).2.used.tags ↔ call.tag? = some name ∨ name ∈ r.used.tags) ∧
      (name ∈ (r.receive call).2.used.classes ↔
        (∃ attr ∈ call.attrs, IsClassOf attr name) ∨ name ∈ r.used.classes) ∧
      (name ∈ (r.receive call).2.used.ids ↔
        (∃ attr ∈ call.attrs, IsIdOf attr name) ∨ name ∈ r.used.ids) := by
  cases call with
  | createElement element attrs =>
      obtain ⟨hclasses, hids, htags⟩ :=
        mem_recordAttrs_iff (r.used.insertTag element.name) attrs name
      refine ⟨?_, hclasses, hids⟩
      have hused : (r.receive (.createElement element attrs)).2.used =
          recordAttrs (r.used.insertTag element.name) attrs := rfl
      rw [hused, htags]
      simp [Profile.insertTag, Call.tag?, eq_comm]
  | addAttrsIfMissing target attrs =>
      obtain ⟨hclasses, hids, htags⟩ :=
        mem_recordAttrs_iff r.used attrs name
      refine ⟨?_, hclasses, hids⟩
      have hused : (r.receive (.addAttrsIfMissing target attrs)).2.used =
          recordAttrs r.used attrs := rfl
      rw [hused, htags]
      simp [Call.tag?]
  | _ => simp [receive, createOther, newHandle, Call.tag?, Call.attrs]

/-- What a run adds to the profile. -/
theorem mem_run_iff (r : Recorder) (calls : List Call) (name : String) :
    (name ∈ (r.run calls).used.tags ↔
        (∃ call ∈ calls, call.tag? = some name) ∨ name ∈ r.used.tags) ∧
      (name ∈ (r.run calls).used.classes ↔
        (∃ call ∈ calls, ∃ attr ∈ call.attrs, IsClassOf attr name) ∨ name ∈ r.used.classes) ∧
      (name ∈ (r.run calls).used.ids ↔
        (∃ call ∈ calls, ∃ attr ∈ call.attrs, IsIdOf attr name) ∨ name ∈ r.used.ids) := by
  induction calls generalizing r with
  | nil => simp [run]
  | cons call rest ih =>
      have hstep : r.run (call :: rest) = (r.receive call).2.run rest := rfl
      obtain ⟨htags, hclasses, hids⟩ := ih (r.receive call).2
      obtain ⟨htag, hclass, hid⟩ := mem_receive_iff r call name
      rw [hstep, htags, hclasses, hids, htag, hclass, hid]
      simp only [List.mem_cons, exists_eq_or_imp, or_assoc, or_left_comm, and_self]

/-- A call about anything but the attributes of an element leaves the profile as it is. -/
theorem receive_used_of_not_tellsOfElement (r : Recorder) {call : Call}
    (h : call.tellsOfElement = false) : (r.receive call).2.used = r.used := by
  cases call with
  | createElement name attrs => cases h
  | addAttrsIfMissing target attrs => cases h
  | _ => rfl

/-- What is recorded next depends only on what was recorded so far. -/
theorem receive_used_congr {r s : Recorder} (h : r.used = s.used) (call : Call) :
    (r.receive call).2.used = (s.receive call).2.used := by
  cases call with
  | createElement name attrs =>
      exact congrArg (fun used => recordAttrs (used.insertTag name.name) attrs) h
  | addAttrsIfMissing target attrs => exact congrArg (fun used => recordAttrs used attrs) h
  | _ => exact h

theorem run_used_eq_filter {r s : Recorder} (h : r.used = s.used) (calls : List Call) :
    (r.run calls).used = (s.run (calls.filter Call.tellsOfElement)).used := by
  induction calls generalizing r s with
  | nil => exact h
  | cons call rest ih =>
      rw [List.filter_cons]
      split
      · exact ih (receive_used_congr h call)
      · rename_i hcall
        have hkeep := receive_used_of_not_tellsOfElement r (Bool.eq_false_iff.mpr hcall)
        exact ih (hkeep.trans h)

/--
A new recorder after any calls.  Every call that creates a node was answered with a handle; the
handles differ, and none is the document.  A handle keeps the name that its node was created
with, whatever is called later; other handles have the blank name.  The profile has exactly the
tags of the elements that were created, and the classes and ids of all attributes that were
told; it does not depend on any other call, and later calls do not remove anything.
-/
theorem run_start_records (calls : List Call) :
    let given := start.given calls
    let handles := given.map Prod.fst
    (given.map Prod.snd = calls.filterMap Call.created? ∧ handles.Nodup ∧ 0 ∉ handles) ∧
    (∀ h name, (h, name) ∈ given → ∀ later : List Call,
      ((start.run (calls ++ later)).receive (.nameOf h)).1 = .name name) ∧
    (∀ h, h ∉ handles → ((start.run calls).receive (.nameOf h)).1 = .name .blank) ∧
    (∀ tag, tag ∈ (start.run calls).finish.tags ↔
      ∃ name attrs, .createElement name attrs ∈ calls ∧ tag = name.name) ∧
    (∀ name, name ∈ (start.run calls).finish.classes ↔
      ∃ call ∈ calls, ∃ attr ∈ call.attrs,
        attr.name = "class" ∧ IsWord attr.value.toList name.toList) ∧
    (∀ name, name ∈ (start.run calls).finish.ids ↔
      ∃ call ∈ calls, ∃ attr ∈ call.attrs,
        attr.name = "id" ∧ name = trimString attr.value ∧ name ≠ "") ∧
    (start.run calls).finish = (start.run (calls.filter Call.tellsOfElement)).finish ∧
    (∀ later : List Call,
      (start.run calls).finish.Within (start.run (calls ++ later)).finish) := by
  intro given handles
  have hsize : start.names.size = 1 := rfl
  have hhandles : handles = List.range' 1 given.length := by
    rw [← hsize]
    exact map_fst_given start calls
  have hrun := mem_run_iff start calls
  refine ⟨⟨map_snd_given start calls, ?_, ?_⟩, ?_, ?_, ?_, ?_, ?_, ?_, ?_⟩
  · rw [hhandles]
    exact List.nodup_range'
  · rw [hhandles, List.mem_range'_1]
    omega
  · intro h name hmem later
    obtain ⟨hlt, hname⟩ := nameOf_run_of_mem_given hmem
    rw [run_append]
    exact congrArg Answer.name ((nameOf_run_of_lt hlt later).trans hname)
  · intro h hh
    exact congrArg Answer.name (nameOf_run_start_of_not_mem hh)
  · intro tag
    refine (hrun tag).1.trans ?_
    refine (or_iff_left (NameSet.not_mem_empty tag)).trans ?_
    constructor
    · rintro ⟨call, hcall, htag⟩
      cases call with
      | createElement name attrs => exact ⟨name, attrs, hcall, (Option.some.inj htag).symm⟩
      | _ => cases htag
    · rintro ⟨name, attrs, hcall, rfl⟩
      exact ⟨_, hcall, rfl⟩
  · intro name
    exact (hrun name).2.1.trans (or_iff_left (NameSet.not_mem_empty name))
  · intro name
    exact (hrun name).2.2.trans (or_iff_left (NameSet.not_mem_empty name))
  · exact run_used_eq_filter rfl calls
  · intro later
    rw [run_append]
    have hlater := mem_run_iff (start.run calls) later
    exact ⟨fun name h => (hlater name).2.1.mpr (.inr h), fun name h => (hlater name).1.mpr (.inr h),
      fun name h => (hlater name).2.2.mpr (.inr h)⟩

end Recorder

end Html

end StylePrune
