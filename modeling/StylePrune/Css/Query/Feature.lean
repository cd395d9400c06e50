import StylePrune.Css.Value.Basic

/-!
# Features in queries

Tests of a medium or of a container, such as `(min-width: 600px)` or `(400px <= width)`.
-/

namespace StylePrune

namespace Css

inductive FeatureType
  | length
  | ratio
  | ident
  | integer
  | boolean
  | resolution
  | number
  | unknown
  deriving DecidableEq, Repr

namespace FeatureType

def isOrdered : FeatureType → Bool
  | length | ratio | integer | resolution | number | unknown => true
  | ident | boolean => false

end FeatureType

def mediaFeatures : List (String × FeatureType) := [
  ("width", .length), ("height", .length), ("aspect-ratio", .ratio), ("orientation", .ident),
  ("overflow-block", .ident), ("overflow-inline", .ident),
  ("horizontal-viewport-segments", .integer), ("vertical-viewport-segments", .integer),
  ("display-mode", .ident), ("resolution", .resolution), ("scan", .ident), ("grid", .boolean),
  ("update", .ident), ("environment-blending", .ident), ("color", .integer),
  ("color-index", .integer), ("monochrome", .integer), ("color-gamut", .ident),
  ("dynamic-range", .ident), ("inverted-colors", .ident), ("pointer", .ident), ("hover", .ident),
  ("any-pointer", .ident), ("any-hover", .ident), ("nav-controls", .ident),
  ("video-color-gamut", .ident), ("video-dynamic-range", .ident), ("scripting", .ident),
  ("prefers-reduced-motion", .ident), ("prefers-reduced-transparency", .ident),
  ("prefers-contrast", .ident), ("forced-colors", .ident), ("prefers-color-scheme", .ident),
  ("prefers-reduced-data", .ident), ("device-width", .length), ("device-height", .length),
  ("device-aspect-ratio", .ratio), ("-webkit-device-pixel-ratio", .number),
  ("-moz-device-pixel-ratio", .number)]

def containerFeatures : List (String × FeatureType) := [
  ("width", .length), ("height", .length), ("inline-size", .length), ("block-size", .length),
  ("aspect-ratio", .ratio), ("orientation", .ident)]

inductive Comparison
  | equal
  | less
  | lessEqual
  | greater
  | greaterEqual
  deriving DecidableEq, Repr

namespace Comparison

def symbol : Comparison → String
  | equal => "="
  | less => "<"
  | lessEqual => "<="
  | greater => ">"
  | greaterEqual => ">="

/-- The comparison with its sides exchanged. -/
def flip : Comparison → Comparison
  | equal => equal
  | less => greater
  | lessEqual => greaterEqual
  | greater => less
  | greaterEqual => lessEqual

def isStrict : Comparison → Bool
  | less | greater => true
  | _ => false

end Comparison

/-- A test of a feature; values are in their printed form. -/
inductive Feature
  | present (name : String)
  | plain (name : String) (value : Printed)
  | range (name : String) (comparison : Comparison) (value : Printed)
  /-- `start` compares with the feature, and the feature with `stop`. -/
  | interval (name : String) (start : Printed) (first : Comparison) (second : Comparison)
      (stop : Printed)
  deriving DecidableEq, Repr

inductive RangeStyle
  /-- With `min-` and `max-`, which old browsers know. -/
  | bounds
  /-- With comparisons. -/
  | comparisons
  deriving DecidableEq, Repr

inductive Connective
  | and
  | or
  deriving DecidableEq, Repr

namespace Connective

def word : Connective → String
  | and => "and"
  | or => "or"

end Connective

namespace Feature

/-- The name of a feature with `min-` or `max-`, which goes after a vendor's name. -/
def boundName (bound name : String) : String :=
  match "-webkit-".toList.isPrefixOf name.toList with
  | true => "-webkit-" ++ bound ++ String.ofList (name.toList.drop 8)
  | false => bound ++ name

/-- A comparison in terms of bounds; inside brackets if more follows. -/
def boundText (name : String) (comparison : Comparison) (value : Printed) (bracketed : Bool) :
    Printed :=
  let test (name : String) : Printed := .text ("(" ++ name ++ ":") :: value ++ [.text ")"]
  let negated (name : String) : Printed :=
    if bracketed then .text "(not " :: test name ++ [.text ")"] else .text "not " :: test name
  match comparison with
  | .equal => test name
  | .lessEqual => test (boundName "max-" name)
  | .greaterEqual => test (boundName "min-" name)
  | .less => negated (boundName "min-" name)
  | .greater => negated (boundName "max-" name)

def print (style : RangeStyle) : Feature → Printed
  | present name => [.text ("(" ++ name ++ ")")]
  | plain name value => .text ("(" ++ name ++ ":") :: value ++ [.text ")"]
  | range name comparison value =>
      match style with
      | .bounds => boundText name comparison value false
      | .comparisons => .text ("(" ++ name ++ comparison.symbol) :: value ++ [.text ")"]
  | interval name start first second stop =>
      match style with
      | .bounds =>
          boundText name first.flip start true ++
            .text " and " :: boundText name second stop true
      | .comparisons =>
          .text "(" :: start ++ .text (first.symbol ++ name ++ second.symbol) :: stop ++
            [.text ")"]

def needsBrackets (style : RangeStyle) (around : Option Connective) : Feature → Bool
  | range _ comparison _ => style == .bounds && comparison.isStrict
  | interval _ _ _ _ _ => style == .bounds && around != some .and
  | _ => false

end Feature

namespace Reader

/-- A feature's name with the bound that stands before it, and its type. -/
structure FeatureName where
  name : String
  bound : Option Comparison
  type : FeatureType

def splitBound (name : List Char) : Option Comparison × List Char :=
  match name with
  | 'm' :: 'i' :: 'n' :: '-' :: rest => (some .greaterEqual, rest)
  | 'm' :: 'a' :: 'x' :: '-' :: rest => (some .lessEqual, rest)
  | _ => (none, name)

def knownFeature? (features : List (String × FeatureType)) (written : String) :
    Option FeatureName :=
  let chars := (Text.lower written).toList
  let webkit := "-webkit-".toList
  let (vendor, chars) := if webkit.isPrefixOf chars then (webkit, chars.drop 8) else ([], chars)
  let (bound, chars) := splitBound chars
  let name := String.ofList (vendor ++ chars)
  (features.find? fun f => f.1 == name).map fun f => ⟨name, bound, f.2⟩

def featureName (features : List (String × FeatureType)) : Reader FeatureName := do
  let written ← ident
  if isDashed written then pure ⟨identText written, none, .unknown⟩
  else
    match knownFeature? features written with
    | some f => pure f
    | none => pure ⟨identText written, none, .unknown⟩

/-- A ratio; its second part may be left out if `short` holds. -/
def ratio (short : Bool) : Reader String := do
  let a ← number
  match ← optional (delim '/') with
  | some _ => do
      let b ← number
      return Number.compact a ++ (if b = 1 then "" else "/" ++ Number.compact b)
  | none => if short then pure (Number.compact a) else fail

def featureValueOf : FeatureType → Reader String
  | .length => do return (← length).text
  | .ratio => ratio true
  | .ident => do return identText (← ident)
  | .integer => do return toString (← integer)
  | .boolean => do
      let n ← integer
      if n = 0 ∨ n = 1 then return toString n else fail
  | .resolution => do return (← resolution).text
  | .number => do return Number.compact (← number)
  | .unknown => fail

/-- A variable of the browser, with a fallback that may have references. -/
def environment : Reader Printed := do
  match ← next with
  | .function name text items closed =>
      if Text.lower name = "env" then
        ofOption (verbatim? .compact [.function name text items closed])
      else fail
  | _ => fail

def featureValueOfAny (types : List (Reader String)) : Reader Printed := do
  return .ofText (← firstOf types)

def featureValue (type : FeatureType) : Reader Printed :=
  match type with
  | .unknown =>
      firstOf [
        featureValueOfAny [ratio false, featureValueOf .number, featureValueOf .length,
          featureValueOf .resolution],
        environment,
        featureValueOfAny [featureValueOf .ident]]
  | type => firstOf [featureValueOfAny [featureValueOf type], environment]

def comparison : Reader Comparison := do
  let equals (strict loose : Comparison) : Reader Comparison := do
    return if (← optional (delim '=')).isSome then loose else strict
  let c ← next
  if c.isDelim '=' then pure .equal
  else if c.isDelim '<' then equals .less .lessEqual
  else if c.isDelim '>' then equals .greater .greaterEqual
  else fail

/-- A test whose feature stands first. -/
def nameFirst (features : List (String × FeatureType)) : Reader Feature := do
  let f ← featureName features
  match ← optional (firstOf [
    do colon; pure (none : Option Comparison),
    do return some (← comparison)]) with
  | none => pure (.present f.name)
  | some operator =>
      if operator.isSome && f.bound.isSome then fail
      else
        let value ← featureValue f.type
        match if operator.isSome then operator else f.bound with
        | some c => if f.type.isOrdered then pure (.range f.name c value) else fail
        | none => pure (.plain f.name value)

def findFeature (features : List (String × FeatureType)) : List Component → Option FeatureName
  | [] => none
  | .token (.ident name) _ :: rest =>
      match featureName features [.token (.ident name) []] with
      | .ok (f, _) => some f
      | .error _ => findFeature features rest
  | _ :: rest => findFeature features rest

/-- A test whose value stands first. -/
def valueFirst (features : List (String × FeatureType)) : Reader Feature := do
  let f ← fun s => match findFeature features s with
    | some f => .ok (f, s)
    | none => .error .unexpected
  if f.bound.isSome || !f.type.isOrdered then fail
  let start ← featureValue f.type
  let first ← comparison
  let _ ← ident
  match ← optional comparison with
  | none => pure (.range f.name first.flip start)
  | some second =>
      let ascending := (first == .less || first == .lessEqual) &&
        (second == .less || second == .lessEqual)
      let descending := (first == .greater || first == .greaterEqual) &&
        (second == .greater || second == .greaterEqual)
      if ascending || descending then do
        let stop ← featureValue f.type
        pure (.interval f.name start first second stop)
      else fail

def feature (features : List (String × FeatureType)) : Reader Feature :=
  firstOf [nameFirst features, valueFirst features]

end Reader

end Css

end StylePrune
