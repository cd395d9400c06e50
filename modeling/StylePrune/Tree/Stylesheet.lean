import StylePrune.Css.Rule.Reader
import StylePrune.Tree.Node

/-!
# Stylesheets as rule trees

The rule tree of a stylesheet's text.  References are written relative to the directory of
the stylesheet's URL, so the tree does not depend on where its text is used.
-/

namespace StylePrune

open Selector (Descriptor)

namespace Node

/-- The descriptors of the selectors of a rule, from their printed texts. -/
def descriptors? (selectors : List Css.Complex) : Option (List Descriptor) :=
  Selector.describe? (Css.printList .readable selectors)

/-- What stands before the first bracket of a printed rule. -/
def headOf (printed : List Char) : String :=
  String.ofList (Text.trim (printed.takeWhile (· != '\x7b')))

/-- A header without white space at its end. -/
def trimmedHeader (header : String) : String :=
  String.ofList (Text.trimEnd header.toList)

mutual

/-- The node of a rule, with references relative to `base`. -/
def ofRule (base : List Char) : Css.Rule → Node
  | .media queries rules =>
      container (trimmedHeader ((Css.mediaHead queries).write base)) (ofRules base rules)
  | .supports condition rules =>
      container (trimmedHeader ("@supports " ++ condition.print)) (ofRules base rules)
  | .layer name rules =>
      container (headOf (Css.layerHead name).toList) (ofRules base rules)
  | .container name condition rules =>
      container (headOf ((Css.containerHead name condition).write base).toList)
        (ofRules base rules)
  | .document rules => container (headOf Css.documentHead.toList) (ofRules base rules)
  | .style selectors declarations rules =>
      leaf (((Css.Rule.style selectors declarations rules).print .top).write base)
        (descriptors? selectors)
  | .startingStyle rules => leaf (((Css.Rule.startingStyle rules).print .top).write base) none
  | .scope start stop rules => leaf (((Css.Rule.scope start stop rules).print .top).write base) none
  | .other text => leaf (text.write base) none

def ofRules (base : List Char) : List Css.Rule → List Node
  | [] => []
  | r :: rest => ofRule base r :: ofRules base rest

end

/-- The text without a byte order mark at its start. -/
def withoutMark : List Char → List Char
  | '\ufeff' :: rest => rest
  | s => s

/-- The rule tree of a stylesheet with some URL; `none` if the text cannot be read. -/
def parse? (css url : String) : Option (List Node) := do
  let rules ← Css.Reader.rules? (Css.Component.ofText (withoutMark css.toList))
  return ofRules (Url.baseOf url.toList) rules

/-- A text that is no stylesheet. -/
structure ParseError where
  css : String
  deriving BEq, DecidableEq, Repr

/-- What is said about the text, where `describe` says what is wrong in it. -/
def ParseError.message (describe : String → String) (e : ParseError) : String :=
  "css parse error: " ++ describe e.css

def parse (css url : String) : Except ParseError (List Node) :=
  match parse? css url with
  | some nodes => .ok nodes
  | none => .error ⟨String.ofList (withoutMark css.toList)⟩

@[simp] theorem toOption_parse (css url : String) : (parse css url).toOption = parse? css url := by
  unfold parse
  cases parse? css url <;> rfl

theorem parse_eq_ok_iff {css url : String} {nodes : List Node} :
    parse css url = .ok nodes ↔ parse? css url = some nodes := by
  unfold parse
  cases parse? css url <;> simp

end Node

end StylePrune
