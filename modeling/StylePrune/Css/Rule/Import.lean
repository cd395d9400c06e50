import StylePrune.Css.Rule

/-!
# Rules without blocks

Imports of other stylesheets, namespaces, and the names of cascade layers.
-/

namespace StylePrune

namespace Css

namespace Reader

/-- One more part of a layer's name, with no white space around its point. -/
def layerPart : Reader String := do
  match ← nextRaw with
  | .token (.delim '.') _ =>
      match ← nextRaw with
      | .token (.ident name) _ => pure name
      | _ => fail
  | _ => fail

def layerName : Reader (List String) := do
  let first ← ident
  return first :: (← many layerPart)

def layerNames? (head : List Component) : Option (List (List String)) :=
  if (skipBlanks head).isEmpty then some [] else all? (commaSeparated layerName) head

def importLayer : Reader String :=
  firstOf [do
    word "layer"
    pure " layer", do
    let items ← functionNamed ["layer"]
    let name ← inside layerName items
    pure (" layer(" ++ layerText name ++ ")"),
    pure ""]

/-- The condition of an import, without a second pair of brackets around a declaration. -/
def importSupports : Reader String := do
  match ← optional (functionNamed ["supports"]) with
  | none => pure ""
  | some items => do
      let c ← inside (firstOf [supportCondition, supportDeclaration]) items
      return match c with
        | .declaration _ _ _ => " supports" ++ c.print
        | _ => " supports(" ++ c.print ++ ")"

/-- An import of another stylesheet, whose own reference is kept as it is. -/
def importRule : Reader Printed := do
  let target ← urlOrString
  let layer ← importLayer
  let supports ← importSupports
  let queries ← mediaList
  let media : Printed := if queries.isEmpty then [] else .text " " :: MediaQuery.printAll queries
  return .text ("@import " ++ stringText target ++ layer ++ supports) :: media ++ [.text ";"]

/-- A namespace, whose reference is kept as it is. -/
def namespaceRule : Reader Printed := do
  let name ← optional ident
  let target ← urlOrString
  let name := match name with
    | some n => identText n ++ " "
    | none => ""
  return "@namespace " ++ name ++ stringText target ++ ";"

def layerStatement? (head : List Component) : Option Printed := do
  let names ← layerNames? head
  if names.isEmpty then none
  else return "@layer " ++ String.intercalate "," (names.map layerText) ++ ";"

end Reader

end Css

end StylePrune
