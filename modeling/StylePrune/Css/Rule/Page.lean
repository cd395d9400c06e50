import StylePrune.Css.Statement

/-!
# Pages

Rules about printed pages and the boxes in their margins.
-/

namespace StylePrune

namespace Css

namespace Reader

def marginBoxes : List String :=
  ["top-left-corner", "top-left", "top-center", "top-right", "top-right-corner", "left-top",
    "left-middle", "left-bottom", "right-top", "right-middle", "right-bottom",
    "bottom-left-corner", "bottom-left", "bottom-center", "bottom-right",
    "bottom-right-corner"]

def pageClasses : List String :=
  ["left", "right", "first", "last", "blank"]

/-- A kind of page, with no white space before its colon. -/
def pageClass : Reader String := do
  match ← nextRaw with
  | .token .colon _ => return ":" ++ (← oneOf pageClasses)
  | _ => fail

/-- Pages by their name and kinds; the first part says whether there is a name. -/
def pageSelector : Reader (Bool × String) := do
  let name ← optional ident
  let classes ← many pageClass
  if name.isNone && classes.isEmpty then fail
  else return (name.isSome, (name.map identText).getD "" ++ String.join classes)

def pageHead? (head : List Component) : Option String :=
  if (skipBlanks head).isEmpty then some "@page"
  else do
    let selectors ← all? (commaSeparated pageSelector) head
    let space := if (selectors.head?.map Prod.fst).getD false then " " else ""
    return "@page" ++ space ++ String.intercalate "," (selectors.map Prod.snd)

def marginBox? (r : AtRule) : Option Printed := do
  let name := Text.lower r.name
  let ds ← declarations (← r.block)
  if marginBoxes.contains name && (skipBlanks r.head).isEmpty then
    return .text ("@" ++ name ++ "\x7b") :: Declaration.printAll ds ++ [.text "\x7d"]
  else none

def pagePart? : Statement → Option (Declaration ⊕ Printed)
  | .atRule r => (marginBox? r).map .inr
  | .other items => (all? declaration items).map .inl

def page? (head block : List Component) : Option Printed := do
  let head ← pageHead? head
  let parts ← (statements block).mapM pagePart?
  let ds := parts.filterMap fun p => p.getLeft?
  let boxes := parts.filterMap fun p => p.getRight?
  let separator := if ds.isEmpty || boxes.isEmpty then "" else ";"
  return .text (head ++ "\x7b") :: Declaration.printAll ds ++ .text separator :: boxes.flatten ++
    [.text "\x7d"]

end Reader

end Css

end StylePrune
