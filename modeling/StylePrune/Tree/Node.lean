import StylePrune.Selector.Descriptor

/-!
# Rule trees

A parsed stylesheet: leaves that are printed as a unit, and grouping rules around others.
-/

namespace StylePrune

open Selector (Descriptor)

inductive Node
  /-- Compact CSS, with the selectors that it depends on; `none` makes it unconditional. -/
  | leaf (css : String) (selectors : Option (List Descriptor))
  /-- A grouping rule such as `@media print`. -/
  | container (header : String) (rules : List Node)
  deriving Inhabited, Repr

namespace Node

mutual

def leafCount : Node → Nat
  | leaf _ _ => 1
  | container _ rules => leafCountList rules

def leafCountList : List Node → Nat
  | [] => 0
  | n :: rest => leafCount n + leafCountList rest

end

mutual

/-- An outline of a node, for people. -/
def outline : Node → String
  | leaf css selectors =>
      css ++ " (" ++ toString ((selectors.map List.length).getD 0) ++ " selectors)"
  | container header rules => header ++ " \x7b\n" ++ outlineList rules ++ "\x7d"

/-- One line for each node, two spaces further in. -/
def outlineList : List Node → String
  | [] => ""
  | n :: rest => "  " ++ outline n ++ "\n" ++ outlineList rest

end

end Node

end StylePrune
