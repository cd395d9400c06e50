import StylePrune.Css.Query.Container
import StylePrune.Css.Query.Supports
import StylePrune.Css.Selector.Reader

/-!
# Rules

The rules of a stylesheet, and their compact text.  Rules inside a style rule are printed
after it, with their selectors spelled out.
-/

namespace StylePrune

namespace Css

inductive Rule
  | style (selectors : List Complex) (declarations : List Declaration) (rules : List Rule)
  | media (queries : List MediaQuery) (rules : List Rule)
  | supports (condition : Support) (rules : List Rule)
  /-- A cascade layer, whose name may have several parts. -/
  | layer (name : List String) (rules : List Rule)
  | container (name : Option String) (condition : Condition) (rules : List Rule)
  /-- Rules for one browser, `@-moz-document url-prefix()`. -/
  | document (rules : List Rule)
  | startingStyle (rules : List Rule)
  | scope (start stop : Option (List Complex)) (rules : List Rule)
  /-- Any other rule, as it is printed. -/
  | other (text : Printed)

def layerText (name : List String) : String :=
  String.intercalate "." (name.map identText)

def layerHead (name : List String) : String :=
  if name.isEmpty then "@layer" else "@layer " ++ layerText name

def containerHead (name : Option String) (condition : Condition) : Printed :=
  let name := match name with
    | some n => identText n ++ " "
    | none => ""
  .text ("@container " ++ name) :: condition.print .comparisons

def mediaHead (queries : List MediaQuery) : Printed :=
  .text "@media " :: MediaQuery.printAll queries

def documentHead : String :=
  "@-moz-document url-prefix()"

/-- What stands before the block of a scope; its end is inside its start. -/
def scopeHead (style : SelectorStyle) (start stop : Option (List Complex)) : String :=
  let first := match start with
    | some s => "(" ++ printSelectors style s ++ ")"
    | none => ""
  let last := match stop, start with
    | some t, some s => " to (" ++ printSelectors (style.inside s) t ++ ")"
    | some t, none => " to (" ++ printSelectors style t ++ ")"
    | none, _ => ""
  "@scope" ++ first ++ last

def braced (head body : Printed) : Printed :=
  head ++ .text "\x7b" :: body ++ [.text "\x7d"]

namespace Rule

mutual

/-- The compact text of a rule, inside the rules that `style` says. -/
def print (style : SelectorStyle) : Rule → Printed
  | .style selectors declarations rules =>
      let own :=
        if declarations.isEmpty && !rules.isEmpty then []
        else braced (printSelectors style selectors) (Declaration.printAll declarations)
      own ++ printAll (style.inside selectors) rules
  | .media queries rules =>
      if queries.all MediaQuery.isAlways then printAll style rules
      else braced (mediaHead queries) (printAll style rules)
  | .supports condition rules =>
      braced ("@supports " ++ condition.print) (printAll style rules)
  | .layer name rules => braced (layerHead name) (printAll style rules)
  | .container name condition rules =>
      braced (containerHead name condition) (printAll style rules)
  | .document rules => braced documentHead (printAll style rules)
  | .startingStyle rules => braced "@starting-style" (printAll style rules)
  | .scope start stop rules => braced (scopeHead style start stop) (printAll .top rules)
  | .other text => text

def printAll (style : SelectorStyle) : List Rule → Printed
  | [] => []
  | r :: rest => print style r ++ printAll style rest

end

end Rule

end Css

end StylePrune
