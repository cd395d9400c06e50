import StylePrune.Css.Value.Image

/-!
# Borders

Borders, outlines, rounded corners and images around a box.
-/

namespace StylePrune

namespace Css

namespace Reader

def lineStyles : List String :=
  ["none", "hidden", "inset", "groove", "outset", "ridge", "dotted", "dashed", "solid",
    "double"]

def lineStyle : Reader Printed :=
  words lineStyles

def lineWidth : Reader Printed :=
  firstOf [lengthText, words ["thin", "medium", "thick"]]

/-- The width, the style and the colour of a line; at least its style is printed. -/
def border (style : Reader Printed) : Reader Printed :=
  shorthand [(lineWidth, "medium"), (style, "none"), (colorText, "currentColor")] "none"

def outlineStyle : Reader Printed :=
  firstOf [words ["auto"], lineStyle]

/-- Values for four sides after `/`, if they are there. -/
def afterSlash (r : Reader Printed) : Reader (Option Printed) :=
  optional (do
    delim '/'
    r)

/-- The radii of four corners; vertical ones are printed if they differ. -/
def radii : Reader Printed := do
  let across ← sides lengthPercentageText
  match ← afterSlash (sides lengthPercentageText) with
  | none => pure across
  | some down => return if down = across then across else Printed.joinWith "/" [across, down]

/-! ## Images around a box -/

/-- How the image is cut; `fill` keeps its middle. -/
def imageSlice : Reader Printed := do
  let before ← optional (word "fill")
  let cuts ← sides (firstOf [numberText, measureText percentage])
  let after ← optional (word "fill")
  if before.isSome ∧ after.isSome then fail
  else return if before.isSome ∨ after.isSome then cuts ++ [.text " fill"] else cuts

def numberOrLength : Reader Printed :=
  firstOf [numberText, lengthText]

def imageWidth : Reader Printed :=
  sides (firstOf [numberText, lengthPercentageText, words ["auto"]])

def imageOutset : Reader Printed :=
  sides numberOrLength

def imageRepeat : Reader Printed :=
  pair (words ["stretch", "repeat", "round", "space"])

/-- The cut, the width and the outset of an image, without those that say nothing. -/
def imageEdges : Reader Printed := do
  let slice ← imageSlice
  let (width, outset) ← match ← optional (delim '/') with
    | none => pure (none, none)
    | some _ => do
        let width ← optional imageWidth
        let outset ← afterSlash imageOutset
        if width.isNone ∧ outset.isNone then fail
        pure (width, outset)
  let width := width.filter (· ≠ Printed.ofText "1")
  let outset := outset.filter (· ≠ Printed.ofText "0")
  let tail := match width, outset with
    | none, none => []
    | some w, none => .text "/" :: w
    | none, some o => .text "//" :: o
    | some w, some o => .text "/" :: w ++ .text "/" :: o
  return slice ++ tail

def borderImage : Reader Printed := do
  let parts ← anyOrder [image, imageEdges, imageRepeat]
  match parts with
  | [source, edges, fill] =>
      let source := source.filter (· ≠ Printed.ofText "none")
      let edges := edges.filter (· ≠ Printed.ofText "100%")
      let fill := fill.filter (· ≠ Printed.ofText "stretch")
      if source.isNone ∧ edges.isNone ∧ fill.isNone then return "none"
      else return Printed.joinWith " " ([source, edges, fill].filterMap id)
  | _ => fail

end Reader

namespace Property

open Reader

def borderGroups : List PropertyGroup := [
  ⟨["border-top-width", "border-bottom-width", "border-left-width", "border-right-width",
    "border-block-start-width", "border-block-end-width", "border-inline-start-width",
    "border-inline-end-width", "outline-width"], lineWidth⟩,
  ⟨["border-top-style", "border-bottom-style", "border-left-style", "border-right-style",
    "border-block-start-style", "border-block-end-style", "border-inline-start-style",
    "border-inline-end-style"], lineStyle⟩,
  ⟨["border-top-color", "border-bottom-color", "border-left-color", "border-right-color",
    "border-block-start-color", "border-block-end-color", "border-inline-start-color",
    "border-inline-end-color", "outline-color"], colorText⟩,
  ⟨["outline-style"], outlineStyle⟩,
  ⟨["border-width"], sides lineWidth⟩,
  ⟨["border-style"], sides lineStyle⟩,
  ⟨["border-color"], sides colorText⟩,
  ⟨["border-block-width", "border-inline-width"], pair lineWidth⟩,
  ⟨["border-block-style", "border-inline-style"], pair lineStyle⟩,
  ⟨["border-block-color", "border-inline-color"], pair colorText⟩,
  ⟨["border", "border-top", "border-bottom", "border-left", "border-right", "border-block",
    "border-inline", "border-block-start", "border-block-end", "border-inline-start",
    "border-inline-end"], border lineStyle⟩,
  ⟨["outline"], border outlineStyle⟩,
  ⟨["border-top-left-radius", "border-top-right-radius", "border-bottom-left-radius",
    "border-bottom-right-radius", "border-start-start-radius", "border-start-end-radius",
    "border-end-start-radius", "border-end-end-radius"], pair lengthPercentageText⟩,
  ⟨["border-radius"], radii⟩,
  ⟨["border-spacing"], pair lengthText⟩,
  ⟨["border-image-source"], image⟩,
  ⟨["border-image-slice"], imageSlice⟩,
  ⟨["border-image-width"], imageWidth⟩,
  ⟨["border-image-outset"], imageOutset⟩,
  ⟨["border-image-repeat"], imageRepeat⟩,
  ⟨["border-image"], borderImage⟩]

end Property

end Css

end StylePrune
