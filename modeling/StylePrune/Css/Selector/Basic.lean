import StylePrune.Css.Verbatim

/-!
# Selectors

Selectors as stylesheets write them, and the text that they are printed as.
-/

namespace StylePrune

namespace Css

inductive Combinator
  | descendant
  | child
  | next
  | later
  deriving DecidableEq, Repr

namespace Combinator

def print (layout : Layout) : Combinator → String
  | descendant => " "
  | child => layout.around ">"
  | next => layout.around "+"
  | later => layout.around "~"

end Combinator

inductive NamespacePart
  | any
  | empty
  | named (name : String)
  deriving DecidableEq, Repr

namespace NamespacePart

def print : NamespacePart → String
  | any => "*|"
  | empty => "|"
  | named name => identText name ++ "|"

end NamespacePart

/-- Which letters an attribute's value may have in another case. -/
inductive CaseFlag
  | none
  | insensitive
  | sensitive
  deriving DecidableEq, Repr

structure AttributeTest where
  ns : Option NamespacePart
  name : String
  /-- The operator and the value that it compares with. -/
  comparison : Option (String × String × CaseFlag)
  deriving DecidableEq, Repr

namespace CaseFlag

def print : CaseFlag → String
  | none => ""
  | insensitive => " i"
  | sensitive => " s"

end CaseFlag

/-- The shorter one of an identifier and a string. -/
def shortValue (value : String) : String :=
  let name := identText value
  let quoted := stringText value
  if name ≠ "" ∧ name.utf8ByteSize < quoted.utf8ByteSize then name else quoted

namespace AttributeTest

def print (layout : Layout) (a : AttributeTest) : String :=
  let ns := (a.ns.map NamespacePart.print).getD ""
  let test := match a.comparison with
    | none => ""
    | some (operator, value, flag) =>
        let value :=
          if layout = .compact && a.ns.isNone then shortValue value else stringText value
        operator ++ value ++ flag.print
  "[" ++ ns ++ identText a.name ++ test ++ "]"

end AttributeTest

/-- What `:nth-child()` and its relatives count. -/
inductive NthKind
  | child
  | lastChild
  | ofType
  | lastOfType
  | column
  | lastColumn
  deriving DecidableEq, Repr

namespace NthKind

def name : NthKind → String
  | child => "nth-child"
  | lastChild => "nth-last-child"
  | ofType => "nth-of-type"
  | lastOfType => "nth-last-of-type"
  | column => "nth-col"
  | lastColumn => "nth-last-col"

end NthKind

mutual

inductive Simple
  /-- The namespace of the name after it. -/
  | namespacePart (ns : NamespacePart)
  | universal
  | type (name : String)
  /-- The selectors of the rule around this one. -/
  | nesting
  | id (name : String)
  | className (name : String)
  | attribute (test : AttributeTest)
  /-- A pseudo-class without arguments. -/
  | pseudoClass (name : String)
  /-- A pseudo-class whose arguments have no meaning here, in both layouts. -/
  | pseudoCall (name : String) (compact readable : String)
  /-- A pseudo-class that takes every `a`th element from the `b`th on. -/
  | nth (kind : NthKind) (a b : Int) (among : Option (List Complex))
  /-- A pseudo-class that takes a list of selectors. -/
  | matching (name : String) (selectors : List Complex)
  /-- A pseudo-class or pseudo-element that takes one selector. -/
  | about (name : String) (selector : Complex)
  /-- A pseudo-element, with its colons. -/
  | pseudoElement (text : String)
  /-- A pseudo-element whose arguments have no meaning here, in both layouts. -/
  | elementCall (name : String) (compact readable : String)

inductive Complex
  /-- The first compound selector, which may be relative to something else. -/
  | start (relation : Option Combinator) (compound : List Simple)
  | join (left : Complex) (relation : Combinator) (compound : List Simple)

end

namespace Simple

def isUniversal : Simple → Bool
  | universal => true
  | _ => false

def isNamespace : Simple → Bool
  | namespacePart _ => true
  | _ => false

/-- A type selector, the universal one included. -/
def isType : Simple → Bool
  | type _ => true
  | universal => true
  | _ => false

/-- A pseudo-element of its own box. -/
def isElement : Simple → Bool
  | pseudoElement _ => true
  | elementCall _ _ _ => true
  | about name _ => name == "::slotted"
  | _ => false

end Simple

namespace Complex

def first : Complex → List Simple
  | start _ compound => compound
  | join left _ _ => left.first

def startsWithType (s : Complex) : Bool :=
  match s.first with
  | [] => false
  | x :: rest =>
      if x.isNamespace then (rest.head?.map Simple.isType).getD false else x.isType

/-- One compound selector without a pseudo-element. -/
def isPlain : Complex → Bool
  | start none compound => !compound.any Simple.isElement
  | _ => false

end Complex

/-- `:is()` does not change what its only selector means. -/
def isUnwrapped : List Complex → Bool
  | [s] => s.isPlain && !s.startsWithType
  | _ => false

/-! ## Nesting -/

mutual

def Simple.mentionsNesting : Simple → Bool
  | .nesting => true
  | .nth _ _ _ (some selectors) => mentionsNestingAny selectors
  | .matching _ selectors => mentionsNestingAny selectors
  | .about _ selector => selector.mentionsNesting
  | _ => false

def Complex.mentionsNesting : Complex → Bool
  | .start _ compound => mentionsNestingIn compound
  | .join left _ compound => left.mentionsNesting || mentionsNestingIn compound

def mentionsNestingIn : List Simple → Bool
  | [] => false
  | x :: rest => x.mentionsNesting || mentionsNestingIn rest

def mentionsNestingAny : List Complex → Bool
  | [] => false
  | s :: rest => s.mentionsNesting || mentionsNestingAny rest

end

namespace Complex

/-- The selector inside the rule around it. -/
def nested : Complex → Complex
  | start none compound => join (start none [.nesting]) .descendant compound
  | start (some relation) compound => join (start none [.nesting]) relation compound
  | join left relation compound => join left.nested relation compound

def isRelative : Complex → Bool
  | start relation _ => relation.isSome
  | join left _ _ => left.isRelative

/-- The selector of a nested rule, which refers to the rule around it. -/
def implicit (s : Complex) : Complex :=
  if s.isRelative || !s.mentionsNesting then s.nested else s

end Complex

/-! ## Printing -/

structure SelectorStyle where
  layout : Layout
  /-- What stands for the rule around, at the start of a selector. -/
  leading : String
  /-- What stands for the rule around elsewhere. -/
  inner : String

namespace SelectorStyle

/-- References to a rule around stay. -/
def readable : SelectorStyle :=
  ⟨.readable, "&", "&"⟩

/-- At the top a reference to the rule around means the scope. -/
def top : SelectorStyle :=
  ⟨.compact, ":scope", ":scope"⟩

end SelectorStyle

def affineText (a b : Int) : String :=
  let offset (b : Int) : String := if b < 0 then toString b else "+" ++ toString b
  if a = 0 then toString b
  else
    let multiple := if a = 1 then "n" else if a = -1 then "-n" else toString a ++ "n"
    if b = 0 then multiple
    else if a = 2 ∧ b = 1 then "odd"
    else multiple ++ offset b

/-- The texts of simple selectors, without universal ones that do not stand alone. -/
def joinSimple (parts : List (Simple × String)) : String :=
  let kept := match parts with
    | [] => []
    | [p] => [p]
    | p :: rest =>
        if p.1.isNamespace then parts
        else if p.1.isUniversal then rest
        else parts
  String.join (kept.map Prod.snd)

/--
A compound selector that starts with a reference to the rule around it; a type selector goes
before this reference.
-/
def joinNested (style : SelectorStyle) : List (Simple × String) → String
  | (.namespacePart _, ns) :: (x, name) :: rest =>
      if x.isType then ns ++ name ++ style.inner ++ joinSimple rest
      else style.leading ++ ns ++ name ++ joinSimple rest
  | (x, name) :: rest =>
      if x.isType then name ++ style.inner ++ joinSimple rest
      else style.leading ++ name ++ joinSimple rest
  | [] => style.leading

def joinCompound (style : SelectorStyle) (isFirst : Bool) (parts : List (Simple × String)) :
    String :=
  match parts with
  | (.nesting, text) :: rest =>
      if isFirst then
        match style.layout with
        | .compact => joinNested style rest
        | .readable => text ++ joinSimple rest
      else text ++ joinSimple rest
  | _ => joinSimple parts

mutual

def Simple.print (style : SelectorStyle) : Simple → String
  | .namespacePart ns => ns.print
  | .universal => "*"
  | .type name => identText name
  | .nesting => style.inner
  | .id name => "#" ++ identText name
  | .className name => "." ++ identText name
  | .attribute test => test.print style.layout
  | .pseudoClass name => ":" ++ name
  | .pseudoCall name compact readable =>
      let arguments := match style.layout with
        | .compact => compact
        | .readable => readable
      ":" ++ name ++ "(" ++ arguments ++ ")"
  | .nth kind a b none => ":" ++ kind.name ++ "(" ++ affineText a b ++ ")"
  | .nth kind a b (some selectors) =>
      let list := String.intercalate style.layout.comma (printList style selectors)
      ":" ++ kind.name ++ "(" ++ affineText a b ++ " of " ++ list ++ ")"
  | .matching name selectors =>
      let list := String.intercalate style.layout.comma (printList style selectors)
      if name = "is" ∧ isUnwrapped selectors then list else ":" ++ name ++ "(" ++ list ++ ")"
  | .about name selector => name ++ "(" ++ selector.print style ++ ")"
  | .pseudoElement text => text
  | .elementCall name compact readable =>
      let arguments := match style.layout with
        | .compact => compact
        | .readable => readable
      "::" ++ name ++ "(" ++ arguments ++ ")"

def Complex.print (style : SelectorStyle) : Complex → String
  | .start relation compound =>
      ((relation.map (Combinator.print style.layout)).getD "") ++
        joinCompound style true (compound.zip (printSimples style compound))
  | .join left relation compound =>
      left.print style ++ relation.print style.layout ++
        joinCompound style false (compound.zip (printSimples style compound))

def printSimples (style : SelectorStyle) : List Simple → List String
  | [] => []
  | x :: rest => x.print style :: printSimples style rest

def printList (style : SelectorStyle) : List Complex → List String
  | [] => []
  | s :: rest => s.print style :: printList style rest

end

def printSelectors (style : SelectorStyle) (selectors : List Complex) : String :=
  String.intercalate style.layout.comma (printList style selectors)

namespace SelectorStyle

/-- The style inside a rule with these selectors, which are printed in `outer`. -/
def inside (outer : SelectorStyle) (selectors : List Complex) : SelectorStyle :=
  let list := ":is(" ++ printSelectors outer selectors ++ ")"
  match selectors with
  | [s] =>
      let text := s.print outer
      ⟨outer.layout, text, if s.isPlain && !s.startsWithType then text else list⟩
  | _ => ⟨outer.layout, list, list⟩

end SelectorStyle

end Css

end StylePrune
