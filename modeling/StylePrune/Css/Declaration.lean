import StylePrune.Css.Property

/-!
# Declarations

Declarations of properties, and the block of declarations of a rule.
-/

namespace StylePrune

namespace Css

structure Declaration where
  name : String
  value : Printed
  important : Bool

namespace Declaration

def print (d : Declaration) : Printed :=
  .text (d.name ++ ":") :: d.value ++ (if d.important then [.text "!important"] else [])

/-- Declarations as they are printed: those that are important come last. -/
def inOrder (ds : List Declaration) : List Declaration :=
  ds.filter (fun d => !d.important) ++ ds.filter Declaration.important

/-- A block of declarations without its brackets. -/
def printAll (ds : List Declaration) : Printed :=
  Printed.joinWith ";" ((inOrder ds).map print)

end Declaration

namespace Reader

def importance : Reader Bool := do
  if ← atEnd then pure false
  else
    delim '!'
    word "important"
    pure true

/-- Where the value of a property ends. -/
def endsValue (custom : Bool) (c : Component) : Bool :=
  c.isDelim '!' || (!custom && c.isCurly)

/-- A declaration that takes all components. -/
def declaration : Reader Declaration := do
  let written ← ident
  colon
  let custom := isDashed written
  let s ← rest
  let value := s.takeWhile fun c => !endsValue custom c
  let mark := s.dropWhile fun c => !endsValue custom c
  let important ← inside importance mark
  let (name, value) ← ofOption (Property.read? written value)
  pure ⟨name, value, important⟩

end Reader

end Css

end StylePrune
