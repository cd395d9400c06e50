import StylePrune.Css.Property

/-!
# Conditions on features of browsers

The conditions of `@supports`.  A declaration in one keeps the text of its value.
-/

namespace StylePrune

namespace Css

inductive Support
  /-- A declaration, whose property may have prefixes. -/
  | declaration (prefixes : List String) (name value : String)
  | selector (text : String)
  | unknown (text : String)
  | not (c : Support)
  | all (conditions : List Support)
  | any (conditions : List Support)

namespace Support

/-- A condition of several parts, whose brackets depend on what is around. -/
inductive Shape
  | simple
  | negation
  | conjunction
  | disjunction
  deriving DecidableEq, Repr

def shape : Support → Shape
  | not _ => .negation
  | all _ => .conjunction
  | any _ => .disjunction
  | _ => .simple

def bracketed (around inner : Shape) (text : String) : String :=
  if inner = .negation ∨ (inner ≠ .simple ∧ inner ≠ around) then "(" ++ text ++ ")" else text

def declarationText (prefixes : List String) (name value : String) : String :=
  let one (lead : String) : String := lead ++ name ++ ":" ++ value
  if prefixes = [""] then "(" ++ one "" ++ ")"
  else "((" ++ String.intercalate ") or (" (prefixes.map one) ++ "))"

mutual

def print : Support → String
  | declaration prefixes name value => declarationText prefixes name value
  | selector text => "selector(" ++ text ++ ")"
  | unknown text => text
  | not c => "not " ++ bracketed .negation c.shape c.print
  | all conditions => String.intercalate " and " (printAll .conjunction conditions)
  | any conditions => String.intercalate " or " (printAll .disjunction conditions)

def printAll (around : Shape) : List Support → List String
  | [] => []
  | c :: rest => bracketed around c.shape c.print :: printAll around rest

end

/-- The declaration is among the conditions, but for its prefix. -/
def isSameDeclaration (name value : String) : Support → Bool
  | declaration _ n v => n == name && v == value
  | _ => false

def prefixOrder : List String :=
  ["-webkit-", "-moz-", "-ms-", "-o-", ""]

def addPrefixes (more : List String) : Support → Support
  | declaration prefixes n v =>
      declaration (prefixOrder.filter fun p => prefixes.contains p || more.contains p) n v
  | c => c

/-- One more condition; declarations that differ in their prefix only become one. -/
def insert (conditions : List Support) (c : Support) : List Support :=
  match c with
  | declaration prefixes name value =>
      if conditions.any (isSameDeclaration name value) then
        conditions.map fun d =>
          if isSameDeclaration name value d then d.addPrefixes prefixes else d
      else conditions ++ [c]
  | c => conditions ++ [c]

end Support

namespace Reader

/-- The text of some components, which must be readable. -/
def sourceText (items : List Component) : Reader String :=
  if Component.isSoundList items then pure (String.ofList (Component.sourceList items)) else fail

def supportDeclaration : Reader Support := do
  let written ← ident
  colon
  let value ← rest
  let text ← sourceText (skipBlanks value)
  let (lead, name) := Property.splitPrefix written
  pure (.declaration [lead] name text)

mutual

def supportPart : Nat → Reader Support
  | 0 => fail
  | fuel + 1 => do
      let c ← next
      let unknown : Reader Support :=
        match c with
        | .function _ _ items _ => do
            let _ ← sourceText items
            pure (.unknown (String.ofList c.source))
        | .block .round items _ => do
            let _ ← sourceText items
            pure (.unknown (String.ofList c.source))
        | _ => fail
      match c with
      | .function name _ items _ =>
          if Text.lower name = "selector" then
            firstOf [do return .selector (← sourceText items), unknown]
          else unknown
      | .block .round items _ =>
          firstOf [inside (firstOf [support fuel, supportDeclaration]) items, unknown]
      | _ => fail

def supportTail (connective : String) (conditions : List Support) : Nat → Reader (List Support)
  | 0 => fail
  | fuel + 1 => do
      match ← optional (do
        word connective
        supportPart fuel) with
      | none => pure conditions
      | some c => supportTail connective (Support.insert conditions c) fuel

def support : Nat → Reader Support
  | 0 => fail
  | fuel + 1 => do
      match ← optional (word "not") with
      | some _ => return .not (← supportPart fuel)
      | none => do
          let first ← supportPart fuel
          match ← optional (do
            let connective ← oneOf ["and", "or"]
            let second ← supportPart fuel
            pure (connective, second)) with
          | none => pure first
          | some (connective, second) => do
              let conditions ← supportTail connective (Support.insert [first] second) fuel
              pure (if connective = "and" then .all conditions else .any conditions)

end

def supportCondition : Reader Support := fun s =>
  support (4 * Component.weight s + 8) s

end Reader

end Css

end StylePrune
