import StylePrune.Proofs.Pruning
import StylePrune.Proofs.Shelf.Handling

/-!
# Stylesheets without a memory

A shelf whose stylesheets keep their trees cannot be told apart from one whose stylesheets read
their text whenever a tree is needed.  What is remembered is which text, and with which URL.
-/

namespace StylePrune

namespace Sheet

/-- What can be seen of a stylesheet besides whether it has been read. -/
structure View where
  id : String
  url : String
  content : String
  output : Option String

def view (s : Sheet) : View :=
  ⟨s.id, s.url, s.content, s.output⟩

def handling (engine : Allow.Engine) : Shelf.Handling Sheet where
  new := Sheet.new
  prune := Sheet.prune engine
  rules s := (s.rules, s.remember)
  setId id s := { s with id }
  setUrl url s := { s with url }
  setContent content s := { s with content }

end Sheet

namespace Shelf

theorem change_eq (shelf : Shelf) (place : Nat) (f : Sheet → Answer × Sheet) :
    shelf.change place f = Handling.change shelf place f := by
  unfold change Handling.change
  cases shelf[place]? <;> rfl

theorem perform_eq (engine : Allow.Engine) :
    perform engine = (Sheet.handling engine).perform := by
  funext shelf a
  cases a with
  | create id url content => rfl
  | prune place settings usage => exact shelf.change_eq place _
  | pruneAll settings usage =>
      simp only [perform, Handling.perform, Sheet.pruneAll, List.map_map]
      rfl
  | rules place => exact shelf.change_eq place _
  | setId place id => exact shelf.change_eq place _
  | setUrl place url => exact shelf.change_eq place _
  | setContent place content => exact shelf.change_eq place _
  | copy place =>
      simp only [perform, Handling.perform]
      cases shelf[place]? <;> rfl

end Shelf

/-- A stylesheet that keeps no tree. -/
structure Record where
  id : String
  url : String
  content : String
  /-- The text and the URL of the first reading that succeeded. -/
  frozen : Option (String × String)
  output : Option String

namespace Record

def new (id url content : String) : Record :=
  ⟨id, url, content, none, none⟩

def view (r : Record) : Sheet.View :=
  ⟨r.id, r.url, r.content, r.output⟩

def isParsed (r : Record) : Bool :=
  r.frozen.isSome

/-- The rule tree, read from the frozen text or else from the present one. -/
def rules (r : Record) : Except Node.ParseError (List Node) :=
  match r.frozen with
  | some (content, url) => Node.parse content url
  | none => Node.parse r.content r.url

def freeze (r : Record) : Record :=
  match r.frozen with
  | some _ => r
  | none =>
      if (Node.parse? r.content r.url).isSome then
        { r with frozen := some (r.content, r.url) }
      else r

def prune (engine : Allow.Engine) (settings : Settings) (usage : Usage) (r : Record) :
    Pruned × Record :=
  match Allow.compile engine (settings.entries usage.allow) r.id r.url with
  | .error _ => (.unchanged r.content, { r with output := some r.content })
  | .ok allow =>
      match r.rules with
      | .error _ => (.unchanged r.content, { r with output := some r.content })
      | .ok rules =>
          let rendering := (Sheet.inclusion settings usage allow).render rules
          (.ofRendering r.content rendering, { r.freeze with output := some rendering.css })

def handling (engine : Allow.Engine) : Shelf.Handling Record where
  new := Record.new
  prune := Record.prune engine
  rules r := (r.rules, r.freeze)
  setId id r := { r with id }
  setUrl url r := { r with url }
  setContent content r := { r with content }

/-- The tree is the one that the frozen text has. -/
inductive Recalls : Option (String × String) → Option (List Node) → Prop
  | nothing : Recalls none none
  | text {content url : String} {rules : List Node}
      (h : Node.parse? content url = some rules) : Recalls (some (content, url)) (some rules)

theorem Recalls.isSome_eq {frozen : Option (String × String)} {tree : Option (List Node)}
    (h : Recalls frozen tree) : tree.isSome = frozen.isSome := by
  cases h <;> rfl

/-- The stylesheet keeps the tree that the record reads. -/
structure Realizes (s : Sheet) (r : Record) : Prop where
  id : s.id = r.id
  url : s.url = r.url
  content : s.content = r.content
  output : s.output = r.output
  tree : Recalls r.frozen s.tree

namespace Realizes

variable {s : Sheet} {r : Record}

theorem view_eq (h : Realizes s r) : s.view = r.view := by
  rw [Sheet.view, Record.view, h.id, h.url, h.content, h.output]

theorem isParsed_eq (h : Realizes s r) : s.isParsed = r.isParsed :=
  h.tree.isSome_eq

/-- Both read the same tree, or fail with the same error. -/
theorem rules_eq (h : Realizes s r) : s.rules = r.rules := by
  rw [Sheet.rules, Record.rules, h.url, h.content]
  obtain ⟨id, url, content, tree, output⟩ := s
  obtain ⟨id', url', content', frozen, output'⟩ := r
  cases h.tree with
  | nothing => rfl
  | text hp => exact (Node.parse_eq_ok_iff.mpr hp).symm

/-- A reading that succeeds is kept as a tree and frozen as a text. -/
theorem recalls_freeze (h : Realizes s r) {rules : List Node} (hr : s.rules = .ok rules) :
    Recalls r.freeze.frozen (some rules) := by
  rw [h.rules_eq] at hr
  obtain ⟨id, url, content, frozen, output⟩ := r
  cases frozen with
  | some origin => exact .text (Node.parse_eq_ok_iff.mp hr)
  | none =>
      have hp : Node.parse? content url = some rules := Node.parse_eq_ok_iff.mp hr
      simp only [freeze, hp, Option.isSome_some, if_true]
      exact .text hp

/-- A reading that fails is neither kept nor frozen. -/
theorem freeze_of_rules_eq_error {e : Node.ParseError} (hr : r.rules = .error e) :
    r.freeze = r := by
  obtain ⟨id, url, content, frozen, output⟩ := r
  cases frozen with
  | some origin => rfl
  | none =>
      have hp : Node.parse? content url = none := by
        rw [← Node.toOption_parse]
        exact congrArg Except.toOption hr
      simp [freeze, hp]

/-- Freezing touches nothing else. -/
theorem freeze_eq : r.freeze = { r with frozen := r.freeze.frozen } := by
  unfold freeze
  split
  · rfl
  · split <;> rfl

/-- The stylesheet and the record after a reading that succeeded. -/
theorem read (h : Realizes s r) {rules : List Node} (hr : s.rules = .ok rules) :
    Realizes { s with tree := some rules } r.freeze := by
  rw [freeze_eq]
  exact ⟨h.id, h.url, h.content, h.output, h.recalls_freeze hr⟩

theorem remember (h : Realizes s r) : Realizes s.remember r.freeze := by
  cases hr : s.rules with
  | ok rules =>
      rw [Sheet.remember, Sheet.rules?, hr]
      exact h.read hr
  | error e =>
      have hnone : s.rules? = none := congrArg Except.toOption hr
      have htree : s.tree = none := (Sheet.rules?_eq_none_iff.mp hnone).1
      rw [freeze_of_rules_eq_error (h.rules_eq ▸ hr), Sheet.remember, hnone, ← htree]
      exact h

theorem withOutput (h : Realizes s r) {css css' : String} (hcss : css = css') :
    Realizes { s with output := some css } { r with output := some css' } :=
  ⟨h.id, h.url, h.content, congrArg some hcss, h.tree⟩

/-- A bad allow list or a bad text leaves tree and frozen text as they are. -/
theorem prune (h : Realizes s r) (engine : Allow.Engine) (settings : Settings) (usage : Usage) :
    (s.prune engine settings usage).1 = (r.prune engine settings usage).1 ∧
      Realizes (s.prune engine settings usage).2 (r.prune engine settings usage).2 := by
  have ha : Allow.compile engine (settings.entries usage.allow) r.id r.url =
      s.allowRules engine (settings.entries usage.allow) := by
    rw [Sheet.allowRules, h.id, h.url]
  rw [Sheet.prune, Record.prune, ha, Sheet.rules?, ← h.rules_eq]
  cases s.allowRules engine (settings.entries usage.allow) with
  | error e => exact ⟨congrArg Pruned.unchanged h.content, h.withOutput h.content⟩
  | ok allow =>
      cases hr : s.rules with
      | error e => exact ⟨congrArg Pruned.unchanged h.content, h.withOutput h.content⟩
      | ok rules =>
          exact ⟨congrArg (Pruned.ofRendering · _) h.content, (h.read hr).withOutput rfl⟩

end Realizes

theorem agree_handling (engine : Allow.Engine) :
    Shelf.Handling.Agree Realizes (Sheet.handling engine) (handling engine) where
  new _ _ _ := ⟨rfl, rfl, rfl, rfl, .nothing⟩
  prune settings usage _ _ h := h.prune engine settings usage
  rules h := ⟨h.rules_eq, h.remember⟩
  setId _ _ _ h := ⟨rfl, h.url, h.content, h.output, h.tree⟩

theorem agreeOnEdits_handling (engine : Allow.Engine) :
    Shelf.Handling.AgreeOnEdits Realizes (Sheet.handling engine) (handling engine) where
  setUrl _ _ _ h := ⟨h.id, rfl, h.content, h.output, h.tree⟩
  setContent _ _ _ h := ⟨h.id, h.url, rfl, h.output, h.tree⟩

end Record

namespace Sheet

/-- A stylesheet that is read again, as a new one, whenever its rules are needed. -/
def afresh (engine : Allow.Engine) : Shelf.Handling Sheet :=
  { handling engine with
    prune := fun settings usage s =>
      let pruned := ((Sheet.new s.id s.url s.content).prune engine settings usage).1
      (pruned, { s with output := some pruned.css })
    rules := fun s => ((Sheet.new s.id s.url s.content).rules, s) }

/-- The tree, if there is one, is that of the present text. -/
def IsCurrent (s : Sheet) : Prop :=
  ∀ rules, s.tree = some rules → Node.parse? s.content s.url = some rules

/-- Stylesheets that look alike, of which the first may have its tree. -/
structure Resembles (s t : Sheet) : Prop where
  id : s.id = t.id
  url : s.url = t.url
  content : s.content = t.content
  output : s.output = t.output
  current : s.IsCurrent

namespace IsCurrent

variable {s : Sheet}

/-- A tree of the present text is what a new reading gives. -/
theorem rules_eq (h : s.IsCurrent) : s.rules = Node.parse s.content s.url := by
  unfold Sheet.rules
  cases htree : s.tree with
  | none => rfl
  | some rules => exact (Node.parse_eq_ok_iff.mpr (h rules htree)).symm

theorem prune_fst (h : s.IsCurrent) (engine : Allow.Engine) (settings : Settings)
    (usage : Usage) :
    (s.prune engine settings usage).1 =
      ((Sheet.new s.id s.url s.content).prune engine settings usage).1 := by
  have hr : (Sheet.new s.id s.url s.content).rules = Node.parse s.content s.url := rfl
  have ha : (Sheet.new s.id s.url s.content).allowRules engine = s.allowRules engine := rfl
  rw [prune, prune, ha, rules?, rules?, hr, h.rules_eq]
  cases s.allowRules engine (settings.entries usage.allow) with
  | error e => rfl
  | ok allow => cases Node.parse s.content s.url <;> rfl

/-- Keeping the tree that was just read leaves it current. -/
theorem withTree (h : s.IsCurrent) {tree : Option (List Node)}
    (htree : tree = s.tree ∨ tree = s.rules?) (output : Option String) :
    IsCurrent { s with tree, output } := by
  intro rules hrules
  obtain rfl : tree = some rules := hrules
  rcases htree with htree | htree
  · exact h rules htree.symm
  · rw [← Node.toOption_parse, ← h.rules_eq]
    exact htree.symm

end IsCurrent

/-- A pruning keeps the tree or replaces it by the rules it asked for. -/
theorem exists_prune_snd_eq (engine : Allow.Engine) (settings : Settings) (usage : Usage)
    (s : Sheet) :
    ∃ tree, (tree = s.tree ∨ tree = s.rules?) ∧
      (s.prune engine settings usage).2 =
        { s with tree, output := some (s.prune engine settings usage).1.css } := by
  by_cases h : s.HasBrokenEntry engine (settings.entries usage.allow) ∨ s.IsUnreadable
  · rw [prune_of_fallback h]
    exact ⟨s.tree, Or.inl rfl, rfl⟩
  · obtain ⟨allow, rules, -, hr, hp⟩ := exists_prune_eq h
    rw [hp]
    exact ⟨some rules, Or.inr hr.symm, rfl⟩

namespace Resembles

variable {s t : Sheet}

theorem view_eq (h : Resembles s t) : s.view = t.view := by
  rw [view, view, h.id, h.url, h.content, h.output]

theorem rules_eq (h : Resembles s t) :
    s.rules = (Sheet.new t.id t.url t.content).rules := by
  rw [h.current.rules_eq, h.url, h.content]
  rfl

theorem remember (h : Resembles s t) : Resembles s.remember t :=
  ⟨h.id, h.url, h.content, h.output, h.current.withTree (Or.inr rfl) s.output⟩

theorem prune (h : Resembles s t) (engine : Allow.Engine) (settings : Settings)
    (usage : Usage) :
    (s.prune engine settings usage).1 = ((afresh engine).prune settings usage t).1 ∧
      Resembles (s.prune engine settings usage).2 ((afresh engine).prune settings usage t).2 := by
  have hfst : (s.prune engine settings usage).1 = ((afresh engine).prune settings usage t).1 := by
    rw [h.current.prune_fst, h.id, h.url, h.content]
    rfl
  obtain ⟨tree, htree, hsnd⟩ := exists_prune_snd_eq engine settings usage s
  refine ⟨hfst, ?_⟩
  rw [hsnd]
  exact ⟨h.id, h.url, h.content, congrArg (fun p => some p.css) hfst,
    h.current.withTree htree _⟩

end Resembles

theorem agree_afresh (engine : Allow.Engine) :
    Shelf.Handling.Agree Resembles (handling engine) (afresh engine) where
  new _ _ _ := ⟨rfl, rfl, rfl, rfl, fun _ h => nomatch h⟩
  prune settings usage _ _ h := h.prune engine settings usage
  rules h := ⟨h.rules_eq, h.remember⟩
  setId _ _ _ h := ⟨rfl, h.url, h.content, h.output, h.current⟩

end Sheet

namespace Shelf

/--
A run of actions answers and leaves behind what a run does whose stylesheets keep no tree but
what it is read from.  Where nobody edits a text or a URL it is as if every stylesheet were a
new one each time.
-/
theorem trace_perform_eq (engine : Allow.Engine) (actions : List Action) :
    let visible := trace (Record.handling engine).perform
      (List.map fun r => (r.view, r.isParsed)) []
    (run engine [] actions).1 = (visible actions).map Prod.fst ∧
      trace (perform engine) (List.map fun s => (s.view, s.isParsed)) [] actions =
        visible actions ∧
      ((∀ a ∈ actions, a.isEdit = false) →
        trace (perform engine) (List.map Sheet.view) [] actions =
          trace (Sheet.afresh engine).perform (List.map Sheet.view) [] actions) := by
  have hrecords : trace (perform engine) (List.map fun s => (s.view, s.isParsed)) [] actions =
      trace (Record.handling engine).perform (List.map fun r => (r.view, r.isParsed)) []
        actions := by
    rw [perform_eq]
    refine (Record.agree_handling engine).trace_eq (fun s r h => ?_)
      (fun _ _ _ => Record.agreeOnEdits_handling engine) .nil
    rw [h.view_eq, h.isParsed_eq]
  refine ⟨?_, hrecords, fun hedit => ?_⟩
  · rw [run_fst, hrecords]
  · rw [perform_eq]
    refine (Sheet.agree_afresh engine).trace_eq (fun s t h => h.view_eq) (fun a ha he => ?_) .nil
    rw [hedit a ha] at he
    cases he

end Shelf

end StylePrune
