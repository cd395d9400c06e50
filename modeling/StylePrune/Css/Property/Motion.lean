import StylePrune.Css.Value.AnimationName
import StylePrune.Css.Value.Position

/-!
# Motion

Transitions, animations and transformations.
-/

namespace StylePrune

namespace Css

namespace Reader

/-! ## Easing -/

def namedCurves : List (List Rat × String) := [
  ([1 / 4, 1 / 10, 1 / 4, 1], "ease"),
  ([42 / 100, 0, 1, 1], "ease-in"),
  ([0, 0, 58 / 100, 1], "ease-out"),
  ([42 / 100, 0, 58 / 100, 1], "ease-in-out")]

def easingWords : List String :=
  ["linear", "ease", "ease-in", "ease-out", "ease-in-out", "step-start", "step-end"]

/-- A curve by the coordinates of its two handles. -/
def curve : Reader Printed := do
  let items ← functionNamed ["cubic-bezier"]
  let points ← inside (commaSeparated number) items
  if points.length ≠ 4 then fail
  else
    match namedCurves.find? fun c => c.1 == points with
    | some (_, name) => return name
    | none =>
        return ("cubic-bezier(" ++ String.intercalate "," (points.map Number.compact) ++ ")"
          : String)

/-- Where a step happens; it is at the end unless something else is said. -/
def stepPlace : Reader String := do
  match ← oneOf ["start", "end", "jump-start", "jump-end", "jump-none", "jump-both"] with
  | "start" | "jump-start" => pure "start"
  | "end" | "jump-end" => pure "end"
  | place => pure place

def steps : Reader Printed := do
  let items ← functionNamed ["steps"]
  let (count, place) ← inside (do
    let count ← integer
    let place ← optional (do
      comma
      stepPlace)
    pure (count, place.getD "end")) items
  return match count, place with
    | 1, "start" => "step-start"
    | 1, "end" => "step-end"
    | n, "end" => ("steps(" ++ toString n ++ ")" : String)
    | n, place => ("steps(" ++ toString n ++ "," ++ place ++ ")" : String)

def easing : Reader Printed :=
  firstOf [words easingWords, curve, steps]

/-! ## Transitions -/

def propertyName (split : String → String × String) : Reader Printed := do
  let (lead, name) := split (← ident)
  return (lead ++ identText name : String)

def zeroTime : Printed :=
  Printed.ofText "0s"

/-- A property, the time it takes, its easing and the time before it starts. -/
def transition (split : String → String × String) : Reader Printed := do
  let timeText := measureText time
  let readers := [timeText, easing, timeText, propertyName split]
  let filled ← fillSlots (readers.map some) (readers.map fun _ => none) readers.length
  match filled with
  | [duration, curve, delay, name] =>
      let duration := duration.getD zeroTime
      let delay := delay.getD zeroTime
      let curve := curve.filter (· ≠ Printed.ofText "ease")
      return Printed.joinWith " " (name.getD (Printed.ofText "all") ::
        (if duration = zeroTime ∧ delay = zeroTime then [] else [duration]) ++
        curve.toList ++ (if delay = zeroTime then [] else [delay]))
  | _ => fail

/-! ## Animations -/

def repeatCount : Reader Printed :=
  firstOf [words ["infinite"], numberText]

def directionWords : List String :=
  ["normal", "reverse", "alternate", "alternate-reverse"]

def fillWords : List String :=
  ["none", "forwards", "backwards", "both"]

def stateWords : List String :=
  ["running", "paused"]

def namedAnimation : Reader Printed :=
  firstOf [words ["none"], do return (← animationName : String)]

/--
The parts of an animation.  A part that is what is meant without it is printed only where the
name could be taken for it.
-/
def animation : Reader Printed := do
  let timeText := measureText time
  let readers := [timeText, easing, timeText, repeatCount, words directionWords,
    words fillWords, words stateWords, namedAnimation]
  let filled ← fillSlots (readers.map some) (readers.map fun _ => none) readers.length
  match filled with
  | [duration, curve, delay, count, direction, fill, state, name] =>
      let name := (name.map Printed.plain).getD "none"
      if name = "none" then return "none"
      else
        let word := Text.lower name
        let part (p : Option Printed) (usual : String) (among : List String) : List Printed :=
          let p := p.getD (Printed.ofText usual)
          if p ≠ Printed.ofText usual ∨ among.contains word then [p] else []
        let duration := duration.getD zeroTime
        let delay := delay.getD zeroTime
        return Printed.joinWith " " (
          (if duration = zeroTime ∧ delay = zeroTime then [] else [duration]) ++
          part curve "ease" easingWords ++
          (if delay = zeroTime then [] else [delay]) ++
          part count "1" ["infinite"] ++
          part direction "normal" directionWords ++
          part fill "none" (fillWords.drop 1) ++
          part state "running" stateWords ++ [Printed.ofText name])
  | _ => fail

/-! ## Transformations -/

/-- Some arguments with commas between them, of which the last ones may be missing. -/
def arguments? {α : Type} (r : Reader α) (least most : Nat) (items : List Component) :
    Reader (List α) := do
  let args ← inside (commaSeparated r) items
  if least ≤ args.length ∧ args.length ≤ most then pure args else fail

def callText (name : String) (args : List String) : String :=
  name ++ "(" ++ String.intercalate "," args ++ ")"

def plainAngle (m : Measure) : String :=
  if m.isZero then "0" else m.text

def translateText (x y z : Measure) : String :=
  if z.isZero then
    if y.isZero then callText "translate" [x.text]
    else if x.isZero then callText "translateY" [y.text]
    else callText "translate" [x.text, y.text]
  else if x.isZero ∧ y.isZero then callText "translateZ" [z.text]
  else callText "translate3d" [x.text, y.text, z.text]

def scaleText (x y : Rat) : String :=
  if x = 1 ∧ y ≠ 1 then callText "scaleY" [Number.compact y]
  else if x ≠ 1 ∧ y = 1 then callText "scaleX" [Number.compact x]
  else if x = y then callText "scale" [Number.compact x]
  else callText "scale" [Number.compact x, Number.compact y]

def scaleText3 (x y z : Rat) : String :=
  if z = 1 then scaleText x y
  else if x = 1 ∧ y = 1 then callText "scaleZ" [Number.compact z]
  else callText "scale3d" [Number.compact x, Number.compact y, Number.compact z]

def rotateText (x y z : Rat) (angle : Measure) : String :=
  match decide (x = 1), decide (y = 1), decide (z = 1), decide (x = 0), decide (y = 0),
    decide (z = 0) with
  | true, _, _, _, true, true => callText "rotateX" [plainAngle angle]
  | _, true, _, true, _, true => callText "rotateY" [plainAngle angle]
  | _, _, true, true, true, _ => callText "rotate" [plainAngle angle]
  | _, _, _, _, _, _ =>
      callText "rotate3d"
        [Number.compact x, Number.compact y, Number.compact z, plainAngle angle]

def axisAndAngle : Reader (Rat × Rat × Rat × Measure) := do
  let x ← number
  comma
  let y ← number
  comma
  let z ← number
  comma
  return (x, y, z, ← angleOrZero)

def threeDistances : Reader (Measure × Measure × Measure) := do
  let x ← lengthPercentage
  comma
  let y ← lengthPercentage
  comma
  return (x, y, ← length)

def nowhere : Measure :=
  .quantity 0 "px"

def transformOf (name : String) (items : List Component) : Reader String :=
  match name with
  | "matrix" => do
      return callText name ((← arguments? number 6 6 items).map Number.compact)
  | "matrix3d" => do
      return callText name ((← arguments? number 16 16 items).map Number.compact)
  | "translate" => do
      match ← arguments? lengthPercentage 1 2 items with
      | [x, y] => return translateText x y nowhere
      | [x] => return translateText x nowhere nowhere
      | _ => fail
  | "translatex" => do return callText "translate" [(← inside lengthPercentage items).text]
  | "translatey" => do return callText "translateY" [(← inside lengthPercentage items).text]
  | "translatez" => do return callText "translateZ" [(← inside length items).text]
  | "translate3d" => do
      let (x, y, z) ← inside threeDistances items
      return if x.isZero ∧ y.isZero ∧ z.isZero then callText "translate" ["0", "0"]
        else translateText x y z
  | "scale" => do
      match ← arguments? fractionOfOne 1 2 items with
      | [x, y] => return scaleText x y
      | [x] => return scaleText x x
      | _ => fail
  | "scalex" => do return callText "scaleX" [Number.compact (← inside fractionOfOne items)]
  | "scaley" => do return callText "scaleY" [Number.compact (← inside fractionOfOne items)]
  | "scalez" => do return callText "scaleZ" [Number.compact (← inside fractionOfOne items)]
  | "scale3d" => do
      match ← arguments? fractionOfOne 3 3 items with
      | [x, y, z] => return scaleText3 x y z
      | _ => fail
  | "rotate" | "rotatez" => do return callText "rotate" [plainAngle (← inside angleOrZero items)]
  | "rotatex" => do return callText "rotateX" [plainAngle (← inside angleOrZero items)]
  | "rotatey" => do return callText "rotateY" [plainAngle (← inside angleOrZero items)]
  | "rotate3d" => do
      let (x, y, z, angle) ← inside axisAndAngle items
      return rotateText x y z angle
  | "skew" => do
      match ← arguments? angleOrZero 1 2 items with
      | [x, y] =>
          return if y.isZero then callText "skew" [plainAngle x]
            else if x.isZero then callText "skewY" [plainAngle y]
            else callText "skew" [plainAngle x, plainAngle y]
      | [x] => return callText "skew" [plainAngle x]
      | _ => fail
  | "skewx" => do return callText "skew" [plainAngle (← inside angleOrZero items)]
  | "skewy" => do return callText "skewY" [plainAngle (← inside angleOrZero items)]
  | "perspective" => do return callText name [(← inside length items).text]
  | _ => fail

def transformFunction : Reader String := do
  let (name, items) ← function
  transformOf name items

def transform : Reader Printed :=
  firstOf [words ["none"], do
    let texts ← many transformFunction
    if texts.isEmpty then fail else return String.join texts]

end Reader

namespace Property

open Reader

/-- The properties of motion; `split` takes the prefix off the name of a property. -/
def motionGroups (split : String → String × String) : List PropertyGroup := [
  ⟨["transition-property"], commaList (propertyName split)⟩,
  ⟨["transition-duration", "transition-delay", "animation-duration", "animation-delay"],
    commaList (measureText time)⟩,
  ⟨["transition-timing-function", "animation-timing-function"], commaList easing⟩,
  ⟨["transition"], commaList (transition split)⟩,
  ⟨["animation-name"], commaList namedAnimation⟩,
  ⟨["animation-iteration-count"], commaList repeatCount⟩,
  ⟨["animation-direction"], commaList (words directionWords)⟩,
  ⟨["animation-play-state"], commaList (words stateWords)⟩,
  ⟨["animation-fill-mode"], commaList (words fillWords)⟩,
  ⟨["animation-composition"], commaList (words ["replace", "add", "accumulate"])⟩,
  ⟨["animation"], commaList animation⟩,
  ⟨["transform"], transform⟩,
  ⟨["transform-origin", "perspective-origin"], positionText⟩,
  ⟨["transform-style"], words ["flat", "preserve-3d"]⟩,
  ⟨["transform-box"], words ["content-box", "border-box", "fill-box", "stroke-box",
    "view-box"]⟩,
  ⟨["backface-visibility"], words ["visible", "hidden"]⟩,
  ⟨["perspective"], firstOf [words ["none"], lengthText]⟩]

end Property

end Css

end StylePrune
