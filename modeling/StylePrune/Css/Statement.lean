import StylePrune.Css.Declaration

/-!
# Statements

The parts of a block: at-rules, which end with a semicolon or a block of their own, and
whatever else stands between semicolons.
-/

namespace StylePrune

namespace Css

/-- A rule that starts with `@`: what stands before its block, and the block if it has one. -/
structure AtRule where
  name : String
  head : List Component
  block : Option (List Component)

inductive Statement
  | atRule (r : AtRule)
  | other (items : List Component)

namespace Reader

/-- The end of what stands before a block. -/
def endsHead (c : Component) : Bool :=
  c.isSemicolon || c.isCurly

/-- The components before a semicolon, and those after it. -/
def cutAtSemicolon (s : List Component) : List Component × List Component :=
  (s.takeWhile (!·.isSemicolon), (s.dropWhile (!·.isSemicolon)).drop 1)

/-- An at-rule whose name has been taken, and what follows it. -/
def atRule (name : String) (s : List Component) : AtRule × List Component :=
  let head := s.takeWhile (!endsHead ·)
  match s.dropWhile (!endsHead ·) with
  | .block .curly items _ :: rest => (⟨name, head, some items⟩, rest)
  | _ :: rest => (⟨name, head, none⟩, rest)
  | [] => (⟨name, head, none⟩, [])

def statementsFrom : Nat → List Component → List Statement
  | 0, _ => []
  | fuel + 1, s =>
      match skipBlanks s with
      | [] => []
      | .token (.atKeyword name) _ :: rest =>
          let (r, rest) := atRule name rest
          .atRule r :: statementsFrom fuel rest
      | .token .semicolon _ :: rest => statementsFrom fuel rest
      | s =>
          let (part, rest) := cutAtSemicolon s
          .other part :: statementsFrom fuel rest

def statements (s : List Component) : List Statement :=
  statementsFrom (s.length + 1) s

def statement? {α : Type} (r : Reader α) : Statement → Option α
  | .atRule _ => none
  | .other items => all? r items

def declarations (s : List Component) : Option (List Declaration) :=
  (statements s).mapM (statement? declaration)

end Reader

end Css

end StylePrune
