import StylePrune.Css.Value.Image

/-!
# Effects

Shadows, filters, opacity, the paint of drawings, and what the user sees of the interface.
-/

namespace StylePrune

namespace Css

namespace Reader

/-! ## Shadows -/

structure ShadowLengths where
  x : Measure
  y : Measure
  blur : Measure
  spread : Measure

def zeroLength : Measure :=
  .quantity 0 "px"

def shadowLengths (spreads : Bool) : Reader ShadowLengths := do
  let x ← length
  let y ← length
  let blur := (← optional length).getD zeroLength
  let spread ← if spreads then optional length else pure none
  return ⟨x, y, blur, spread.getD zeroLength⟩

namespace ShadowLengths

/-- Blur and spread are printed up to the last one that is not zero. -/
def text (s : ShadowLengths) : String :=
  String.intercalate " " ([s.x.text, s.y.text] ++
    if s.spread ≠ zeroLength then [s.blur.text, s.spread.text]
    else if s.blur ≠ zeroLength then [s.blur.text] else [])

end ShadowLengths

def shadow (inset : Reader Printed) (spreads : Bool) : Reader Printed := do
  let lengths : Reader Printed := do return (← shadowLengths spreads).text
  match ← anyOrder [inset, lengths, colorText] with
  | [inset, some lengths, color] =>
      let color := color.filter (· ≠ Printed.ofText (Color.text .current))
      return Printed.joinWith " " (inset.toList ++ [lengths] ++ color.toList)
  | _ => fail

def boxShadow : Reader Printed :=
  shadow (words ["inset"]) true

def textShadow : Reader Printed :=
  shadow fail true

def dropShadow : Reader Printed :=
  shadow fail false

/-! ## Filters -/

/-- An argument that is left out if it is the usual one. -/
def filterArgument (r : Reader Printed) (usual : List String) : Reader Printed := do
  match ← optional r with
  | none => pure []
  | some p => return if usual.any fun u => p = Printed.ofText u then [] else p

/-- A number or a percentage, as it was written. -/
def amount : Reader Printed :=
  firstOf [numberText, measureText percentage]

def filterArgumentOf (name : String) : Reader Printed :=
  match name with
  | "blur" => filterArgument lengthText ["0"]
  | "hue-rotate" => filterArgument (measureText angleOrZero) ["0deg"]
  | "brightness" | "contrast" | "grayscale" | "invert" | "opacity" | "saturate" | "sepia" =>
      filterArgument amount ["1", "100%"]
  | "drop-shadow" => dropShadow
  | _ => fail

def filterFunction : Reader Printed :=
  firstOf [urlPiece, do
    let (name, items) ← function
    let argument ← inside (filterArgumentOf name) items
    return [Piece.text (name ++ "(")] ++ argument ++ [Piece.text ")"]]

def filters : Reader Printed :=
  firstOf [words ["none"], do
    let found ← many filterFunction
    if found.isEmpty then fail else return found.flatten]

/-! ## Paint -/

/-- A paint that is defined elsewhere, with another one in its place where it is missing. -/
def paint : Reader Printed :=
  firstOf [do
    let target ← urlPiece
    let fallback ← optional (firstOf [words ["none"], colorText])
    return Printed.joinWith " " (target :: fallback.toList),
    colorText,
    words ["none", "context-fill", "context-stroke"]]

def opacity : Reader Printed := do
  return Number.compact (← fractionOfOne)

/-- The lengths of dashes and gaps, without the unit of pixels. -/
def dashes : Reader Printed :=
  firstOf [words ["none"], do
    let found ← many (do
      let m ← lengthPercentage
      let _ ← optional comma
      return match m with
        | .quantity value "px" => Number.compact value
        | m => m.text)
    if found.isEmpty then fail else return String.intercalate " " found]

/-- A drawing at the points of a line. -/
def marker : Reader Printed :=
  firstOf [words ["none"], urlPiece]

/-! ## The interface -/

def cursorWords : List String :=
  ["auto", "default", "none", "context-menu", "help", "pointer", "progress", "wait", "cell",
    "crosshair", "text", "vertical-text", "alias", "copy", "move", "no-drop", "not-allowed",
    "grab", "grabbing", "e-resize", "n-resize", "ne-resize", "nw-resize", "s-resize",
    "se-resize", "sw-resize", "w-resize", "ew-resize", "ns-resize", "nesw-resize",
    "nwse-resize", "col-resize", "row-resize", "all-scroll", "zoom-in", "zoom-out"]

/-- An image of a cursor, and the point of it that points. -/
def cursorImage : Reader Printed := do
  let target ← urlPiece
  let point ← optional (do
    let x ← numberText
    return [x, ← numberText])
  comma
  return Printed.joinWith " " (target :: point.getD [])

def cursor : Reader Printed := do
  let images ← many cursorImage
  return Printed.joinWith "," (images ++ [← words cursorWords])

def colorOrAuto : Reader Printed :=
  firstOf [words ["auto"], colorText]

def appearanceWords : List String :=
  ["none", "auto", "textfield", "menulist-button", "button", "checkbox", "listbox", "menulist",
    "meter", "progress-bar", "push-button", "radio", "searchfield", "slider-horizontal",
    "square-button", "textarea"]

/-- The appearance of a control; names of other controls stay as they are. -/
def appearance : Reader Printed :=
  firstOf [words appearanceWords, do return identText (← ident)]

end Reader

namespace Property

open Reader

def effectGroups : List PropertyGroup := [
  ⟨["box-shadow"], commaList boxShadow⟩,
  ⟨["text-shadow"], commaList textShadow⟩,
  ⟨["opacity", "fill-opacity", "stroke-opacity"], opacity⟩,
  ⟨["filter", "backdrop-filter"], filters⟩,
  ⟨["fill", "stroke"], paint⟩,
  ⟨["fill-rule", "clip-rule"], words ["nonzero", "evenodd"]⟩,
  ⟨["stroke-width", "stroke-dashoffset"], lengthPercentageText⟩,
  ⟨["stroke-linecap"], words ["butt", "round", "square"]⟩,
  ⟨["stroke-linejoin"], words ["miter", "miter-clip", "round", "bevel", "arcs"]⟩,
  ⟨["stroke-miterlimit"], numberText⟩,
  ⟨["stroke-dasharray"], dashes⟩,
  ⟨["marker-start", "marker-mid", "marker-end", "marker"], marker⟩,
  ⟨["color-interpolation", "color-interpolation-filters"],
    words ["auto", "srgb", "linearrgb"]⟩,
  ⟨["color-rendering", "image-rendering"],
    words ["auto", "optimizespeed", "optimizequality"]⟩,
  ⟨["shape-rendering"], words ["auto", "optimizespeed", "crispedges", "geometricprecision"]⟩,
  ⟨["text-rendering"],
    words ["auto", "optimizespeed", "optimizelegibility", "geometricprecision"]⟩,
  ⟨["resize"], words ["none", "both", "horizontal", "vertical", "block", "inline"]⟩,
  ⟨["cursor"], cursor⟩,
  ⟨["caret-color", "accent-color"], colorOrAuto⟩,
  ⟨["caret-shape"], words ["auto", "bar", "block", "underscore"]⟩,
  ⟨["user-select"], words ["auto", "text", "none", "contain", "all"]⟩,
  ⟨["appearance"], appearance⟩,
  ⟨["print-color-adjust"], words ["economy", "exact"]⟩,
  ⟨["all"], words ["initial", "inherit", "unset", "revert", "revert-layer"]⟩]

end Property

end Css

end StylePrune
