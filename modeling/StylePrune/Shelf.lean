import StylePrune.Pruning

/-!
# Shelves of stylesheets

What can be done, in any order, with a list of stylesheets that grows.
-/

namespace StylePrune

/-- Stylesheets in the order in which they were put there. -/
abbrev Shelf := List Sheet

namespace Shelf

/-- Something to do; stylesheets are named by their place. -/
inductive Action
  | create (id url content : String)
  | prune (place : Nat) (settings : Settings) (usage : Usage)
  | pruneAll (settings : Settings) (usage : Usage)
  | rules (place : Nat)
  | setId (place : Nat) (id : String)
  | setUrl (place : Nat) (url : String)
  | setContent (place : Nat) (content : String)
  /-- A copy goes to the end. -/
  | copy (place : Nat)

inductive Answer
  | done
  /-- There is no stylesheet in this place. -/
  | missing
  /-- The place of a new stylesheet. -/
  | place (n : Nat)
  | pruned (p : Pruned)
  | prunedAll (ps : List Pruned)
  | rules (tree : Except Node.ParseError (List Node))

def change (shelf : Shelf) (place : Nat) (f : Sheet → Answer × Sheet) : Answer × Shelf :=
  match shelf[place]? with
  | none => (.missing, shelf)
  | some s => ((f s).1, shelf.set place (f s).2)

/-- The answer to an action, and the shelf after it. -/
def perform (engine : Allow.Engine) (shelf : Shelf) : Action → Answer × Shelf
  | .create id url content => (.place shelf.length, shelf ++ [.new id url content])
  | .prune place settings usage =>
      shelf.change place fun s =>
        let (pruned, s) := s.prune engine settings usage
        (.pruned pruned, s)
  | .pruneAll settings usage =>
      let results := Sheet.pruneAll engine settings usage shelf
      (.prunedAll (results.map Prod.fst), results.map Prod.snd)
  | .rules place => shelf.change place fun s => (.rules s.rules, s.remember)
  | .setId place id => shelf.change place fun s => (.done, { s with id })
  | .setUrl place url => shelf.change place fun s => (.done, { s with url })
  | .setContent place content => shelf.change place fun s => (.done, { s with content })
  | .copy place =>
      match shelf[place]? with
      | none => (.missing, shelf)
      | some s => (.place shelf.length, shelf ++ [s])

def run (engine : Allow.Engine) (shelf : Shelf) : List Action → List Answer × Shelf
  | [] => ([], shelf)
  | a :: rest =>
      let (answer, shelf) := shelf.perform engine a
      let (answers, shelf) := run engine shelf rest
      (answer :: answers, shelf)

end Shelf

end StylePrune
