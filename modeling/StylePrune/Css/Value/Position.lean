import StylePrune.Css.Value.Basic

/-!
# Positions

Positions in a box: sides, and distances from them, on two axes.
-/

namespace StylePrune

namespace Css

inductive PositionPart
  | center
  /-- A distance from the left or from the top. -/
  | length (m : Measure)
  | side (name : String) (offset : Option Measure)
  deriving DecidableEq

namespace PositionPart

def isCenter : PositionPart → Bool
  | center => true
  | length (.quantity value unit) => value == 50 && unit == percentSign
  | _ => false

/-- No distance from the left or from the top, written as a measure. -/
def isZero : PositionPart → Bool
  | length m => m.isZero
  | _ => false

def text : PositionPart → String
  | center => "50%"
  | length m => m.text
  | side name none => name
  | side name (some m) => name ++ " " ++ m.text

/-- The distance that a side is from the left or from the top. -/
def sideDistance (name : String) : String :=
  if name = "left" ∨ name = "top" then "0" else "100%"

/-- A measure as a distance, where zero has no unit at all. -/
def distanceText (m : Measure) : String :=
  if m.isZero then "0" else m.text

/-- The distance from the left or from the top, if it can be told. -/
def distance? : PositionPart → Option String
  | center => some "50%"
  | length m => some (distanceText m)
  | side name offset =>
      if name = "left" ∨ name = "top" then some ((offset.map distanceText).getD "0") else none

end PositionPart

structure Position where
  x : PositionPart
  y : PositionPart
  deriving DecidableEq

namespace Position

def origin : Position :=
  ⟨.length (.quantity 0 "px"), .length (.quantity 0 "px")⟩

def middle : Position :=
  ⟨.center, .center⟩

def isMiddle (p : Position) : Bool :=
  p.x.isCenter && p.y.isCenter

def isZero (p : Position) : Bool :=
  p.x.isZero && p.y.isZero

/-- Both axes, as distances if possible. -/
def pairText (p : Position) : String :=
  match p.x.distance?, p.y.distance? with
  | some x, some y => x ++ " " ++ y
  | _, _ => p.x.text ++ " " ++ p.y.text

/-- The position on an axis where the other one is in the middle. -/
def centeredText (x : PositionPart) : String :=
  match x with
  | .side name none => PositionPart.sideDistance name
  | x => x.text

/-- The shortest notation of a position. -/
def text (p : Position) : String :=
  match p.x, p.y with
  | .side x (some offset), .length y =>
      if x = "left" then p.pairText
      else (PositionPart.side x (some offset)).text ++ " top " ++ y.text
  | .side x (some offset), y =>
      if x ≠ "left" ∧ y.isCenter then (PositionPart.side x (some offset)).text ++ " center"
      else p.pairText
  | .length x, .side y (some offset) =>
      if y = "top" then p.pairText
      else "left " ++ x.text ++ " " ++ (PositionPart.side y (some offset)).text
  | .side x none, .side y none =>
      PositionPart.sideDistance x ++ " " ++ PositionPart.sideDistance y
  | x, .side y none => if x.isCenter then y else p.pairText
  | x, y => if y.isCenter then centeredText x else p.pairText

end Position

namespace Reader

def horizontalSide : Reader String :=
  oneOf ["left", "right"]

def verticalSide : Reader String :=
  oneOf ["top", "bottom"]

def positionPart (side : Reader String) : Reader PositionPart :=
  firstOf [do
    word "center"
    pure .center,
    do return .length (← lengthPercentage),
    do
      let name ← side
      return .side name (← optional lengthPercentage)]

def afterCenter : Reader Position := do
  match ← optional (positionPart verticalSide) with
  | some y => return ⟨.center, y⟩
  | none =>
      match ← optional (positionPart horizontalSide) with
      | some x => return ⟨x, .center⟩
      | none => return .middle

def afterLength (x : PositionPart) : Reader Position :=
  firstOf [do return ⟨x, .side (← verticalSide) none⟩,
    do return ⟨x, .length (← lengthPercentage)⟩,
    do
      let _ ← optional (word "center")
      return ⟨x, .center⟩]

/-- The vertical position after a side and a distance, which may be the vertical one. -/
def afterSide (name : String) (offset : Option Measure) : Reader Position :=
  firstOf [do
    word "center"
    return ⟨.side name offset, .center⟩,
    do
      let y ← verticalSide
      return ⟨.side name offset, .side y (← optional lengthPercentage)⟩,
    do return ⟨.side name none, (offset.map PositionPart.length).getD .center⟩]

def afterVerticalSide (y : String) : Reader Position :=
  firstOf [do
    let offset ← optional lengthPercentage
    let x ← firstOf [do
      let x ← horizontalSide
      return PositionPart.side x (← optional lengthPercentage),
      do
        word "center"
        pure .center]
    return ⟨x, .side y offset⟩,
    do return ⟨.center, .side y none⟩]

def position : Reader Position := do
  match ← optional (positionPart horizontalSide) with
  | some .center => afterCenter
  | some (.length m) => afterLength (.length m)
  | some (.side name offset) => afterSide name offset
  | none => afterVerticalSide (← verticalSide)

def positionText : Reader Printed := do
  return (← position).text

def positionPartText (side : Reader String) : Reader Printed := do
  return (← positionPart side).text

end Reader

end Css

end StylePrune
