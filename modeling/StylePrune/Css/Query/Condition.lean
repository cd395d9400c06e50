import StylePrune.Css.Query.Feature

/-!
# Conditions in queries

Conditions of media and of containers, and lists of media queries.
-/

namespace StylePrune

namespace Css

inductive Condition
  | feature (f : Feature)
  /-- A test of a container's style, as it is printed. -/
  | style (text : Printed)
  /-- A property, or a declaration of one, in such a test. -/
  | property (text : Printed)
  | not (c : Condition)
  | join (by_ : Connective) (conditions : List Condition)

namespace Condition

/-- The printed condition needs brackets inside another one. -/
def needsBrackets (ranges : RangeStyle) (around : Option Connective) : Condition → Bool
  | feature f => f.needsBrackets ranges around
  | style _ => false
  | property _ => true
  | not _ => true
  | join by_ _ => around != some by_

def bracketed (needed : Bool) (text : Printed) : Printed :=
  if needed then .text "(" :: text ++ [.text ")"] else text

mutual

def print (ranges : RangeStyle) : Condition → Printed
  | feature f => f.print ranges
  | style text => text
  | property text => text
  | not c => .text "not " :: bracketed (c.needsBrackets ranges none) (c.print ranges)
  | join by_ conditions =>
      Printed.joinWith (" " ++ by_.word ++ " ") (printAll ranges by_ conditions)

def printAll (ranges : RangeStyle) (by_ : Connective) : List Condition → List Printed
  | [] => []
  | c :: rest =>
      bracketed (c.needsBrackets ranges (some by_)) (c.print ranges) :: printAll ranges by_ rest

end

end Condition

structure MediaQuery where
  /-- `not` or `only`. -/
  qualifier : Option String
  medium : String
  condition : Option Condition

namespace MediaQuery

def print (q : MediaQuery) : Printed :=
  let lead := (q.qualifier.map (· ++ " ")).getD ""
  let named := q.medium ≠ "all" ∨ q.qualifier.isSome
  let medium := if named ∨ q.condition.isNone then q.medium else ""
  let condition : Printed := match q.condition with
    | none => []
    | some c =>
        if named then
          let needed := match c with
            | .join .or _ => true
            | _ => false
          .text " and " :: Condition.bracketed needed (c.print .bounds)
        else c.print .bounds
  .text (lead ++ medium) :: condition

def isAlways (q : MediaQuery) : Bool :=
  q.qualifier.isNone && q.medium == "all" && q.condition.isNone

/-- Queries with commas between them; there is no medium for which none of them holds. -/
def printAll (qs : List MediaQuery) : Printed :=
  if qs.isEmpty then "not all" else Printed.joinWith "," (qs.map print)

end MediaQuery

namespace Reader

structure ConditionKind where
  /-- The content of brackets that hold no condition. -/
  feature : Reader Condition
  /-- A function with its arguments. -/
  call : String → List Component → Reader Condition

def connective : Reader Connective := do
  return if (← oneOf ["and", "or"]) = "and" then .and else .or

mutual

/-- A condition in brackets, or a function. -/
def conditionPart (kind : ConditionKind) : Nat → Reader Condition
  | 0 => fail
  | fuel + 1 => do
      match ← next with
      | .block .round items _ =>
          inside (firstOf [condition kind true fuel, kind.feature]) items
      | .function name _ items _ => kind.call (Text.lower name) items
      | _ => fail

/-- More conditions with the same connective. -/
def conditionTail (kind : ConditionKind) (by_ : Connective) : Nat → Reader (List Condition)
  | 0 => fail
  | fuel + 1 => do
      match ← optional (word by_.word) with
      | none => pure []
      | some _ => do
          let c ← conditionPart kind fuel
          let more ← conditionTail kind by_ fuel
          pure (c :: more)

/-- A condition; `or` may stand at its top if `any` holds. -/
def condition (kind : ConditionKind) (any : Bool) : Nat → Reader Condition
  | 0 => fail
  | fuel + 1 => do
      match ← optional (word "not") with
      | some _ => return .not (← conditionPart kind fuel)
      | none => do
          let first ← conditionPart kind fuel
          match ← optional connective with
          | none => pure first
          | some by_ =>
              if by_ = .or ∧ !any then fail
              else do
                let second ← conditionPart kind fuel
                let more ← conditionTail kind by_ fuel
                pure (.join by_ (first :: second :: more))

end

def conditionOf (kind : ConditionKind) (any : Bool) : Reader Condition := fun s =>
  condition kind any (4 * Component.weight s + 8) s

def featureTest (features : List (String × FeatureType)) : Reader Condition := do
  return .feature (← feature features)

def mediaCondition (any : Bool) : Reader Condition :=
  conditionOf ⟨featureTest mediaFeatures, fun _ _ => fail⟩ any

/-- The names of media that are printed in lower case. -/
def medium : Reader String := do
  let name ← customIdent
  let known := Text.lower name
  pure (if ["all", "print", "screen"].contains known then known else name)

def mediaQuery : Reader MediaQuery := do
  let named ← optional (do
    let qualifier ← optional (oneOf ["not", "only"])
    let name ← medium
    pure (qualifier, name))
  match named with
  | none => return ⟨none, "all", some (← mediaCondition true)⟩
  | some (qualifier, name) =>
      match ← optional (word "and") with
      | some _ => return ⟨qualifier, name, some (← mediaCondition false)⟩
      | none => pure ⟨qualifier, name, none⟩

/-- Media queries up to one that is empty, which must be the last one. -/
def mediaParts : List (List Component) → Except Fault (List MediaQuery)
  | [] => .ok []
  | part :: rest =>
      match all mediaQuery part with
      | .ok q =>
          match mediaParts rest with
          | .ok qs => .ok (q :: qs)
          | .error e => .error e
      | .error .ended => if rest.isEmpty then .ok [] else .error .unexpected
      | .error e => .error e

def mediaList : Reader (List MediaQuery) := fun s =>
  match mediaParts (Component.splitCommas s) with
  | .ok qs => .ok (qs, [])
  | .error e => .error e

end Reader

end Css

end StylePrune
