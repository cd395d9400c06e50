import StylePrune.Css.Piece
import StylePrune.Css.Reader

/-!
# Measures

Numbers with units: lengths, percentages, angles, times and resolutions, and calculations
with them.  Each is printed in its shortest form.
-/

namespace StylePrune

namespace Css

def lengthUnits : List String := [
  "px", "in", "cm", "mm", "q", "pt", "pc", "em", "rem", "ex", "rex", "ch", "rch", "cap", "rcap",
  "ic", "ric", "lh", "rlh", "vw", "lvw", "svw", "dvw", "cqw", "vh", "lvh", "svh", "dvh", "cqh",
  "vi", "svi", "lvi", "dvi", "cqi", "vb", "svb", "lvb", "dvb", "cqb", "vmin", "svmin", "lvmin",
  "dvmin", "cqmin", "vmax", "svmax", "lvmax", "dvmax", "cqmax"]

def angleUnits : List String :=
  ["deg", "grad", "rad", "turn"]

def timeUnits : List String :=
  ["s", "ms"]

def resolutionUnits : List String :=
  ["dpi", "dpcm", "dppx", "x"]

def percentSign : String := "%"

/-- A unit after a number, where `e` must not look like an exponent. -/
def unitText (unit : String) : String :=
  match unit.toList with
  | ['e'] => "\\65 "
  | ['E'] => "\\65 "
  | 'e' :: '-' :: rest => "\\65 " ++ nameText (String.ofList ('-' :: rest))
  | 'E' :: '-' :: rest => "\\65 " ++ nameText (String.ofList ('-' :: rest))
  | _ => identText unit

/-- A number with a unit, which is written also after zero. -/
def dimensionText (value : Rat) (unit : String) : String :=
  Number.compact value ++ (if unit = percentSign then unit else unitText unit)

/-- A time in the shorter one of its two units. -/
def timeText (value : Rat) (unit : String) : String :=
  if unit = "s" then
    if 0 < value ∧ value < 1 / 10 then dimensionText (value * 1000) "ms"
    else dimensionText value "s"
  else if value = 0 ∨ 100 ≤ value then dimensionText (value / 1000) "s"
  else dimensionText value "ms"

/-- An angle; zero is written in degrees. -/
def angleText (value : Rat) (unit : String) : String :=
  dimensionText value (if value = 0 ∧ unit = "rad" then "deg" else unit)

def resolutionText (value : Rat) (unit : String) : String :=
  dimensionText value (if unit = "x" then "dppx" else unit)

def quantityText (value : Rat) (unit : String) : String :=
  if unit = "" then Number.compact value
  else if timeUnits.contains unit then timeText value unit
  else if angleUnits.contains unit then angleText value unit
  else if resolutionUnits.contains unit then resolutionText value unit
  else dimensionText value unit

/-! ## Calculations -/

inductive Summand
  | quantity (value : Rat) (unit : String)
  /-- A multiple of a function that is printed as it stands. -/
  | multiple (factor : Rat) (function : String)
  deriving DecidableEq

namespace Summand

def scale (factor : Rat) : Summand → Summand
  | quantity value unit => quantity (factor * value) unit
  | multiple f function => multiple (factor * f) function

def isZero : Summand → Bool
  | quantity value _ => value == 0
  | multiple _ _ => false

def isNegative : Summand → Bool
  | quantity value _ => value < 0
  | multiple _ _ => false

def add? : Summand → Summand → Option Summand
  | quantity a u, quantity b v => if u = v then some (quantity (a + b) u) else none
  | _, _ => none

/-- The summand without its sign. -/
def text : Summand → String
  | quantity value unit =>
      quantityText value unit
  | multiple factor function =>
      if factor = 1 then function
      else if -1 < factor ∧ factor < 1 ∧ factor ≠ 0 then
        function ++ "/" ++ Number.compact (1 / factor)
      else Number.compact factor ++ "*" ++ function

end Summand

namespace Sum

/-- A sum with one more summand, which joins one of its unit. -/
def insert (x : Summand) : List Summand → List Summand
  | [] => [x]
  | y :: rest =>
      match y.add? x with
      | some z => z :: rest
      | none => y :: insert x rest

/-- Summands that are zero do not count beside others. -/
def normalize (xs : List Summand) : List Summand :=
  match xs.filter fun x => !x.isZero with
  | [] => xs.take 1
  | ys => ys

def addOne (xs : List Summand) (x : Summand) : List Summand :=
  match xs with
  | [y] =>
      match y.add? x with
      | some z => [z]
      | none =>
          if y.isZero then [x]
          else if x.isZero then [y]
          else if y.isNegative && !x.isNegative then [x, y]
          else [y, x]
  | _ => normalize (insert x xs)

/-- The sum of two sums; a negative summand does not stand first without need. -/
def add (xs ys : List Summand) : List Summand :=
  ys.foldl addOne xs

def scale (factor : Rat) (xs : List Summand) : List Summand :=
  xs.map (Summand.scale factor)

def number? : List Summand → Option Rat
  | [.quantity value ""] => some value
  | _ => none

def tailText : List Summand → String
  | [] => ""
  | x :: rest =>
      (if x.isNegative then " - " ++ (x.scale (-1)).text else " + " ++ x.text) ++ tailText rest

/-- A sum as it stands inside a calculation. -/
def text : List Summand → String
  | [] => "0"
  | x :: rest => x.text ++ tailText rest

/-- The smaller or larger ones of sums that are single quantities of one unit. -/
def reduce (better : Rat → Rat → Bool) (sums : List (List Summand)) : List (List Summand) :=
  sums.foldl (fun kept s =>
    match s with
    | [.quantity value unit] =>
        let isRival : List Summand → Bool
          | [.quantity _ u] => u == unit
          | _ => false
        match kept.find? isRival with
        | some [.quantity v _] =>
            if better value v then kept.map fun k => if isRival k then s else k else kept
        | _ => kept ++ [s]
    | _ => kept ++ [s]) []

end Sum

namespace Reader

/-- What a measure may be made of. -/
structure Units where
  names : List String
  percent : Bool

def callOfSums (name : String) (sums : List (List Summand)) : Option (List Summand) :=
  let call (f : String) (args : List (List Summand)) : String :=
    f ++ "(" ++ String.intercalate "," (args.map Sum.text) ++ ")"
  let choose (better : Rat → Rat → Bool) : Option (List Summand) :=
    match Sum.reduce better sums with
    | [] => none
    | [s] => some s
    | kept => some [.multiple 1 (call name kept)]
  match name, sums with
  | "min", _ => choose fun a b => a < b
  | "max", _ => choose fun a b => b < a
  | "clamp", [low, middle, high] =>
      match low, middle, high with
      | [.quantity a u], [.quantity b v], [.quantity c w] =>
          if u = v ∧ v = w then some [.quantity (Number.clamp a c b) u]
          else
            some [.multiple 1 ("max(" ++ Sum.text low ++ "," ++ call "min" [middle, high] ++ ")")]
      | _, _, _ =>
          some [.multiple 1 ("max(" ++ Sum.text low ++ "," ++ call "min" [middle, high] ++ ")")]
  | _, _ => none

def mathNames : List String :=
  ["calc", "min", "max", "clamp"]

mutual

def operand (units : Units) : Nat → Reader (List Summand)
  | 0 => fail
  | fuel + 1 => do
      match ← next with
      | .token (.number n) _ => pure [.quantity n.value ""]
      | .token (.percentage n) _ =>
          if units.percent then pure [.quantity n.value percentSign] else fail
      | .token (.dimension n unit) _ =>
          let unit := Text.lower unit
          if units.names.contains unit then pure [.quantity n.value unit] else fail
      | .block .round items _ => inside (sum units fuel) items
      | .function name _ items _ =>
          let name := Text.lower name
          if name = "calc" then inside (sum units fuel) items
          else if mathNames.contains name then
            let sums ← inside (commaSeparated (sum units fuel)) items
            ofOption (callOfSums name sums)
          else fail
      | _ => fail

/-- Operands with `*` or `/` between them; all but one are numbers. -/
def product (units : Units) : Nat → Reader (List Summand)
  | 0 => fail
  | fuel + 1 => do
      let first ← operand units fuel
      factors units first fuel

def factors (units : Units) (left : List Summand) : Nat → Reader (List Summand)
  | 0 => fail
  | fuel + 1 => do
      if (← optional (delim '*')).isSome then
        let right ← operand units fuel
        match Sum.number? right, Sum.number? left with
        | some n, _ => factors units (Sum.scale n left) fuel
        | none, some n => factors units (Sum.scale n right) fuel
        | none, none => fail
      else if (← optional (delim '/')).isSome then
        let right ← operand units fuel
        match Sum.number? right with
        | some n => if n = 0 then fail else factors units (Sum.scale (1 / n) left) fuel
        | none => fail
      else pure left

/-- Products with `+` or `-` in white space between them. -/
def sum (units : Units) : Nat → Reader (List Summand)
  | 0 => fail
  | fuel + 1 => do
      let first ← product units fuel
      summands units first fuel

def summands (units : Units) (left : List Summand) : Nat → Reader (List Summand)
  | 0 => fail
  | fuel + 1 => do
      if ← atEnd then pure left
      else
        match ← optional nextRaw with
        | some (.token .space _) =>
            let c ← next
            let right ← product units fuel
            if c.isDelim '+' then summands units (Sum.add left right) fuel
            else if c.isDelim '-' then summands units (Sum.add left (Sum.scale (-1) right)) fuel
            else fail
        | _ => fail

end

/-- A measure: a quantity with its unit, or a calculation. -/
inductive Measure
  | quantity (value : Rat) (unit : String)
  | computed (text : String)
  deriving DecidableEq

namespace Measure

def isZero : Measure → Bool
  | quantity value _ => value == 0
  | computed _ => false

/-- The measure; lengths of zero have no unit. -/
def text : Measure → String
  | quantity value unit =>
      if value = 0 ∧ lengthUnits.contains unit then "0" else quantityText value unit
  | computed s => s

end Measure

def calculation (units : Units) : Reader Measure := do
  match ← next with
  | .function name text items closed =>
      let name := Text.lower name
      if mathNames.contains name then
        let whole := [Component.function name text items closed]
        let result ← inside (operand units (4 * Component.weight whole + 8)) whole
        match result with
        | [.quantity value unit] => if unit = "" then fail else pure (.quantity value unit)
        | sum =>
            if name = "calc" then pure (.computed ("calc(" ++ Sum.text sum ++ ")"))
            else pure (.computed (Sum.text sum))
      else fail
  | _ => fail

/-- A measure with one of the units; a bare number has the unit `bare`, if there is one. -/
def measure (units : Units) (bare : Option String) : Reader Measure :=
  firstOf [calculation units, do
    match ← next with
    | .token (.dimension n unit) _ =>
        let unit := Text.lower unit
        if units.names.contains unit then pure (.quantity n.value unit) else fail
    | .token (.percentage n) _ =>
        if units.percent then pure (.quantity n.value percentSign) else fail
    | .token (.number n) _ =>
        match bare with
        | some unit => pure (.quantity n.value unit)
        | none => fail
    | _ => fail]

def length : Reader Measure :=
  measure ⟨lengthUnits, false⟩ (some "px")

def lengthPercentage : Reader Measure :=
  measure ⟨lengthUnits, true⟩ (some "px")

def percentage : Reader Measure :=
  measure ⟨[], true⟩ none

def time : Reader Measure :=
  measure ⟨timeUnits, false⟩ none

def angle : Reader Measure :=
  measure ⟨angleUnits, false⟩ none

/-- An angle, where zero needs no unit. -/
def angleOrZero : Reader Measure :=
  firstOf [angle, do
    match ← next with
    | .token (.number n) _ => if n.value = 0 then pure (.quantity 0 "deg") else fail
    | _ => fail]

def resolution : Reader Measure :=
  measure ⟨resolutionUnits, false⟩ none

def numberCalculation : Reader Rat := do
  match ← next with
  | .function name text items closed =>
      let whole := [Component.function name text items closed]
      let result ← inside (operand ⟨[], false⟩ (4 * Component.weight whole + 8)) whole
      ofOption (Sum.number? result)
  | _ => fail

def plainNumber : Reader Numeric := do
  match ← next with
  | .token (.number n) _ => pure n
  | _ => fail

def number : Reader Rat :=
  firstOf [do return (← plainNumber).value, numberCalculation]

def integer : Reader Int := do
  ofOption (← plainNumber).whole?

/-- A number or a percentage as a fraction of one. -/
def fractionOfOne : Reader Rat :=
  firstOf [number, do
    match ← percentage with
    | .quantity value _ => pure (value / 100)
    | .computed _ => fail]

end Reader

export Reader (Measure)

end Css

end StylePrune
