import Mathlib.Data.List.Forall2
import StylePrune.Shelf

/-!
# Shelves of any kind

The actions on a shelf for stylesheets of any kind, and when two kinds cannot be told apart by
what the actions answer.
-/

namespace StylePrune

namespace Shelf

/-- The action changes the text of a stylesheet or the URL that it is read with. -/
def Action.isEdit : Action → Bool
  | setUrl _ _ => true
  | setContent _ _ => true
  | _ => false

/-- The answer to each action of a run, with what is seen of the shelf after it. -/
def trace {σ ω : Type} (perform : σ → Action → Answer × σ) (see : σ → ω) (shelf : σ) :
    List Action → List (Answer × ω)
  | [] => []
  | a :: rest =>
      ((perform shelf a).1, see (perform shelf a).2) ::
        trace perform see (perform shelf a).2 rest

/-- A run answers what its trace shows. -/
theorem run_fst {ω : Type} (engine : Allow.Engine) (see : Shelf → ω) (shelf : Shelf)
    (actions : List Action) :
    (run engine shelf actions).1 =
      (trace (perform engine) see shelf actions).map Prod.fst := by
  induction actions generalizing shelf with
  | nil => rfl
  | cons a rest ih =>
      rw [run, trace, List.map_cons]
      exact congrArg _ (ih (shelf.perform engine a).2)

/-- What the actions do with one stylesheet. -/
structure Handling (α : Type) where
  new : (id url content : String) → α
  prune : Settings → Usage → α → Pruned × α
  rules : α → Except Node.ParseError (List Node) × α
  setId : String → α → α
  setUrl : String → α → α
  setContent : String → α → α

namespace Handling

variable {α β : Type}

def change (xs : List α) (place : Nat) (f : α → Answer × α) : Answer × List α :=
  match xs[place]? with
  | none => (.missing, xs)
  | some x => ((f x).1, xs.set place (f x).2)

def perform (A : Handling α) (xs : List α) : Action → Answer × List α
  | .create id url content => (.place xs.length, xs ++ [A.new id url content])
  | .prune place settings usage =>
      change xs place fun x =>
        (.pruned (A.prune settings usage x).1, (A.prune settings usage x).2)
  | .pruneAll settings usage =>
      (.prunedAll (xs.map fun x => (A.prune settings usage x).1),
        xs.map fun x => (A.prune settings usage x).2)
  | .rules place => change xs place fun x => (.rules (A.rules x).1, (A.rules x).2)
  | .setId place id => change xs place fun x => (.done, A.setId id x)
  | .setUrl place url => change xs place fun x => (.done, A.setUrl url x)
  | .setContent place content => change xs place fun x => (.done, A.setContent content x)
  | .copy place =>
      match xs[place]? with
      | none => (.missing, xs)
      | some x => (.place xs.length, xs ++ [x])

/-- Related stylesheets of two kinds answer alike and stay related, edits apart. -/
structure Agree (R : α → β → Prop) (A : Handling α) (B : Handling β) : Prop where
  new : ∀ id url content, R (A.new id url content) (B.new id url content)
  prune : ∀ settings usage {x y}, R x y →
    (A.prune settings usage x).1 = (B.prune settings usage y).1 ∧
      R (A.prune settings usage x).2 (B.prune settings usage y).2
  rules : ∀ {x y}, R x y → (A.rules x).1 = (B.rules y).1 ∧ R (A.rules x).2 (B.rules y).2
  setId : ∀ id {x y}, R x y → R (A.setId id x) (B.setId id y)

/-- Related stylesheets of two kinds stay related when they are edited. -/
structure AgreeOnEdits (R : α → β → Prop) (A : Handling α) (B : Handling β) : Prop where
  setUrl : ∀ url {x y}, R x y → R (A.setUrl url x) (B.setUrl url y)
  setContent : ∀ content {x y}, R x y → R (A.setContent content x) (B.setContent content y)

section

open List (Forall₂)

variable {R : α → β → Prop} {xs : List α} {ys : List β}

/-- A place is empty on both shelves, or the stylesheets there are related. -/
theorem getElem?_of_forall₂ (h : Forall₂ R xs ys) (place : Nat) :
    (xs[place]? = none ∧ ys[place]? = none) ∨
      ∃ x y, xs[place]? = some x ∧ ys[place]? = some y ∧ R x y := by
  induction h generalizing place with
  | nil => exact Or.inl ⟨rfl, rfl⟩
  | cons hxy _ ih =>
      cases place with
      | zero => exact Or.inr ⟨_, _, rfl, rfl, hxy⟩
      | succ place => exact ih place

theorem forall₂_set (h : Forall₂ R xs ys) {x : α} {y : β} (hxy : R x y) (place : Nat) :
    Forall₂ R (xs.set place x) (ys.set place y) := by
  induction h generalizing place with
  | nil => exact .nil
  | cons hfirst hrest ih =>
      cases place with
      | zero => exact .cons hxy hrest
      | succ place => exact .cons hfirst (ih place)

theorem change_of_forall₂ (h : Forall₂ R xs ys) {f : α → Answer × α} {g : β → Answer × β}
    (hfg : ∀ x y, R x y → (f x).1 = (g y).1 ∧ R (f x).2 (g y).2) (place : Nat) :
    (change xs place f).1 = (change ys place g).1 ∧
      Forall₂ R (change xs place f).2 (change ys place g).2 := by
  rcases getElem?_of_forall₂ h place with ⟨hx, hy⟩ | ⟨x, y, hx, hy, hxy⟩
  · simpa only [change, hx, hy, true_and] using h
  · simp only [change, hx, hy]
    exact ⟨(hfg x y hxy).1, forall₂_set h (hfg x y hxy).2 place⟩

theorem map_eq_of_forall₂ {γ : Type} {see : α → γ} {view : β → γ}
    (hsee : ∀ x y, R x y → see x = view y) (h : Forall₂ R xs ys) :
    xs.map see = ys.map view := by
  induction h with
  | nil => rfl
  | cons hxy _ ih => rw [List.map_cons, List.map_cons, hsee _ _ hxy, ih]

variable {A : Handling α} {B : Handling β}

/-- One action on two shelves whose stylesheets are related. -/
theorem Agree.perform (h : Agree R A B) {a : Action}
    (he : a.isEdit = true → AgreeOnEdits R A B) (hs : Forall₂ R xs ys) :
    (A.perform xs a).1 = (B.perform ys a).1 ∧
      Forall₂ R (A.perform xs a).2 (B.perform ys a).2 := by
  cases a with
  | create id url content =>
      exact ⟨congrArg Answer.place hs.length_eq,
        List.rel_append hs (.cons (h.new id url content) .nil)⟩
  | prune place settings usage =>
      refine change_of_forall₂ hs (fun x y hxy => ?_) place
      exact ⟨congrArg Answer.pruned (h.prune settings usage hxy).1, (h.prune settings usage hxy).2⟩
  | pruneAll settings usage =>
      refine ⟨congrArg Answer.prunedAll ?_, ?_⟩
      · exact map_eq_of_forall₂ (fun x y hxy => (h.prune settings usage hxy).1) hs
      · exact List.rel_map (R := R) (fun _ _ hxy => (h.prune settings usage hxy).2) hs
  | rules place =>
      refine change_of_forall₂ hs (fun x y hxy => ?_) place
      exact ⟨congrArg Answer.rules (h.rules hxy).1, (h.rules hxy).2⟩
  | setId place id => exact change_of_forall₂ hs (fun _ _ hxy => ⟨rfl, h.setId id hxy⟩) place
  | setUrl place url =>
      exact change_of_forall₂ hs (fun _ _ hxy => ⟨rfl, (he rfl).setUrl url hxy⟩) place
  | setContent place content =>
      exact change_of_forall₂ hs (fun _ _ hxy => ⟨rfl, (he rfl).setContent content hxy⟩) place
  | copy place =>
      rcases getElem?_of_forall₂ hs place with ⟨hx, hy⟩ | ⟨x, y, hx, hy, hxy⟩
      · simpa only [Handling.perform, hx, hy, true_and] using hs
      · simp only [Handling.perform, hx, hy]
        exact ⟨congrArg Answer.place hs.length_eq, List.rel_append hs (.cons hxy .nil)⟩

/-- Two kinds that agree cannot be told apart by a run. -/
theorem Agree.trace_eq {γ : Type} {see : α → γ} {view : β → γ} (h : Agree R A B)
    (hsee : ∀ x y, R x y → see x = view y) {actions : List Action}
    (he : ∀ a ∈ actions, a.isEdit = true → AgreeOnEdits R A B) (hs : Forall₂ R xs ys) :
    trace A.perform (List.map see) xs actions =
      trace B.perform (List.map view) ys actions := by
  induction actions generalizing xs ys with
  | nil => rfl
  | cons a rest ih =>
      rw [List.forall_mem_cons] at he
      obtain ⟨hanswer, hafter⟩ := h.perform he.1 hs
      rw [trace, trace, hanswer, map_eq_of_forall₂ hsee hafter, ih he.2 hafter]

end

end Handling

end Shelf

end StylePrune
