import StylePrune.Css.Value.Position

/-!
# Gradients

Images that go from colour to colour along a line, from a centre or around it.
-/

namespace StylePrune

namespace Css

/-- A colour at a place, or a place where two colours are mixed evenly. -/
inductive GradientItem
  | stop (color : Color) (place : Option Measure)
  | hint (place : Measure)
  deriving DecidableEq

namespace GradientItem

def isRelative : GradientItem → Bool
  | stop _ none => true
  | stop _ (some (.quantity _ unit)) => unit == percentSign
  | hint (.quantity _ unit) => unit == percentSign
  | _ => false

/-- The place as seen from the other end. -/
def flipPlace : Measure → Measure
  | .quantity value unit => .quantity (100 - value) unit
  | m => m

def flip : GradientItem → GradientItem
  | stop color place => stop color (place.map flipPlace)
  | hint place => hint (flipPlace place)

/-- A hint in the middle means nothing. -/
def isIdle : GradientItem → Bool
  | hint m => m == .quantity 50 percentSign
  | _ => false

def text : GradientItem → String
  | stop color none => color.text
  | stop color (some place) => color.text ++ " " ++ place.text
  | hint place => place.text

def secondPlace? : Option GradientItem → GradientItem → Option Measure
  | some (stop before (some _)), stop color (some place) =>
      if before = color then some place else none
  | _, _ => none

/-- Items with commas between them; two stops of one colour are written as one. -/
def tailText (last : Option GradientItem) : List GradientItem → String
  | [] => ""
  | item :: rest =>
      match secondPlace? last item with
      | some place => " " ++ place.text ++ tailText none rest
      | none => "," ++ item.text ++ tailText (some item) rest

def listText (items : List GradientItem) : String :=
  match items.filter fun item => !item.isIdle with
  | [] => ""
  | item :: rest => item.text ++ tailText (some item) rest

end GradientItem

namespace Reader

/-- One or two items between two commas. -/
def gradientPart (place : Reader Measure) (afterStop : Bool) : Reader (List GradientItem × Bool) :=
  firstOf [if afterStop then do return ([.hint (← place)], false) else fail,
    do
      let c ← color
      let first ← optional place
      match ← optional place with
      | none => return ([.stop c first], true)
      | some second => return ([.stop c first, .stop c (some second)], true)]

def gradientParts (place : Reader Measure) (afterStop : Bool) :
    List (List Component) → Option (List GradientItem)
  | [] => some []
  | part :: rest => do
      let (items, stopped) ← all? (gradientPart place afterStop) part
      let more ← gradientParts place stopped rest
      return items ++ more

def gradientItems (place : Reader Measure) : Reader (List GradientItem) := fun s =>
  match gradientParts place false (Component.splitCommas s) with
  | some items => .ok (items, [])
  | none => .error .unexpected

inductive LineDirection
  | angle (m : Measure)
  | side (name : String)
  | corner (vertical horizontal : String)
  deriving DecidableEq

namespace LineDirection

/-- The angle in degrees, clockwise from the top, if it is known. -/
def degrees? : LineDirection → Option Rat
  | angle (.quantity value unit) => degreesOf? value unit
  | side "top" => some 0
  | side "right" => some 90
  | side "bottom" => some 180
  | side "left" => some 270
  | _ => none

/-- The direction after `lead`, which stands before the names of corners. -/
def text (lead : String) : LineDirection → String
  | angle m => m.text
  | side "top" => "0deg"
  | side "right" => "90deg"
  | side "left" => "270deg"
  | side _ => "180deg"
  | corner vertical horizontal => lead ++ vertical ++ " " ++ horizontal

end LineDirection

/-- A direction; with a prefix there is no `to` before sides. -/
def lineDirection (prefixed : Bool) : Reader LineDirection :=
  firstOf [do return .angle (← angleOrZero), do
    if !prefixed then word "to"
    match ← optional horizontalSide with
    | some x =>
        match ← optional verticalSide with
        | some y => pure (.corner y x)
        | none => pure (.side x)
    | none =>
        let y ← verticalSide
        match ← optional horizontalSide with
        | some x => pure (.corner y x)
        | none => pure (.side y)]

/-- A gradient along a line, which goes downwards unless something else is said. -/
def linearGradient (prefixed : Bool) : Reader String := do
  let direction ← optional (lineDirection prefixed)
  if direction.isSome then comma
  let items ← gradientItems lengthPercentage
  match direction with
  | none => return GradientItem.listText items
  | some d =>
      if d.degrees? = some 180 then return GradientItem.listText items
      else if d.degrees? = some 0 ∧ items.all GradientItem.isRelative then
        return GradientItem.listText (items.reverse.map GradientItem.flip)
      else return d.text (if prefixed then "" else "to ") ++ "," ++ GradientItem.listText items

def shapeExtent : Reader String :=
  oneOf ["closest-side", "farthest-side", "closest-corner", "farthest-corner"]

def ellipse : Reader String :=
  firstOf [do
    let extent ← shapeExtent
    match ← optional (oneOf ["circle", "ellipse"]) with
    | some "circle" => fail
    | _ => pure extent,
    do
      let x ← lengthPercentage
      let y ← lengthPercentage
      let _ ← optional (word "ellipse")
      return x.text ++ " " ++ y.text,
    do
      word "ellipse"
      match ← optional shapeExtent with
      | some extent => pure extent
      | none =>
          match ← optional lengthPercentage with
          | some x => return x.text ++ " " ++ (← lengthPercentage).text
          | none => pure "farthest-corner"]

def circleText (extent : String) : String :=
  if extent = "farthest-corner" then "circle" else "circle " ++ extent

def circle : Reader String :=
  firstOf [do
    let extent ← shapeExtent
    word "circle"
    return circleText extent,
    do
      let radius ← length
      let _ ← optional (word "circle")
      return radius.text,
    do
      word "circle"
      match ← optional shapeExtent with
      | some extent => return circleText extent
      | none =>
          match ← optional length with
          | some radius => return radius.text
          | none => pure "circle"]

def atPosition : Reader Position := do
  word "at"
  position

def gradientLead (shape : String) (center : Position) : String :=
  let around := if center.isMiddle then "" else "at " ++ center.text
  match shape, around with
  | "", "" => ""
  | "", around => around ++ ","
  | shape, "" => shape ++ ","
  | shape, around => shape ++ " " ++ around ++ ","

/-- A gradient from a centre, which reaches the farthest corner unless something else is said. -/
def radialGradient : Reader String := do
  let shape ← optional (firstOf [ellipse, circle])
  let center ← optional atPosition
  if shape.isSome || center.isSome then comma
  let items ← gradientItems lengthPercentage
  let shape := shape.getD "farthest-corner"
  return gradientLead (if shape = "farthest-corner" then "" else shape) (center.getD .middle) ++
    GradientItem.listText items

def anglePercentage : Reader Measure :=
  measure ⟨angleUnits, true⟩ none

def conicGradient : Reader String := do
  let start ← optional (do
    word "from"
    angleOrZero)
  let center ← optional atPosition
  if start.isSome || center.isSome then comma
  let items ← gradientItems anglePercentage
  let lead := match start with
    | some a => if a.isZero then "" else "from " ++ a.text
    | none => ""
  return gradientLead lead (center.getD .middle) ++ GradientItem.listText items

def gradientPrefixes : List String :=
  ["-webkit-", "-moz-", "-o-"]

def unprefixedGradient (name : String) : Option String :=
  gradientPrefixes.findSome? fun lead =>
    if lead.toList.isPrefixOf name.toList then
      some (String.ofList (name.toList.drop lead.toList.length))
    else none

/-- A gradient, once or repeated. -/
def gradient : Reader Printed := do
  let (name, items) ← function
  let base := unprefixedGradient name
  let text ← match base.getD name with
    | "linear-gradient" | "repeating-linear-gradient" => inside (linearGradient base.isSome) items
    | "radial-gradient" | "repeating-radial-gradient" => inside radialGradient items
    | "conic-gradient" | "repeating-conic-gradient" =>
        if base.isSome then fail else inside conicGradient items
    | _ => fail
  return (name ++ "(" ++ text ++ ")" : String)

end Reader

end Css

end StylePrune
