import StylePrune.Css.Query.Condition
import StylePrune.Css.Declaration

/-!
# Conditions of containers

The names of containers and the conditions on them, which may test their style.
-/

namespace StylePrune

namespace Css

namespace Reader

def styleFeature : Reader Condition := do
  let written ← ident
  match ← optional colon with
  | none =>
      let (lead, name) := Property.splitPrefix written
      return .property [.text (identText (lead ++ name))]
  | some _ => do
      let s ← rest
      let value := s.takeWhile fun c => !c.isDelim '!'
      let _ ← inside importance (s.dropWhile fun c => !c.isDelim '!')
      let (name, value) ← ofOption (Property.read? written value)
      return .property (.text (name ++ ":") :: value)

/-- A test of a style, without the function around it. -/
def styleCondition : Reader Condition :=
  firstOf [do
    let c ← conditionOf ⟨styleFeature, fun _ _ => fail⟩ true
    expectEnd
    pure c,
    styleFeature]

def styleCall (name : String) (items : List Component) : Reader Condition := do
  if name = "style" then
    let c ← inside styleCondition items
    return .style (.text "style(" :: c.print .comparisons ++ [.text ")"])
  else fail

def containerCondition : Reader Condition :=
  conditionOf ⟨featureTest containerFeatures, styleCall⟩ true

def containerName : Reader String := do
  let name ← customIdent
  if ["none", "and", "not", "or"].contains (Text.lower name) then fail else pure name

end Reader

end Css

end StylePrune
