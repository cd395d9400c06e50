import StylePrune.Css.Property.Border

/-!
# Backgrounds

Layers of images behind a box, and masks over it.
-/

namespace StylePrune

namespace Css

namespace Reader

/-- A width and a height; a height of its own accord is not printed. -/
def layerSize : Reader Printed :=
  firstOf [do
    let width ← lengthOr ["auto"]
    match ← optional (lengthOr ["auto"]) with
    | none => pure width
    | some height =>
        return if height = Printed.ofText "auto" then width
          else Printed.joinWith " " [width, height],
    words ["cover", "contain"]]

def repeatWord : Reader Printed :=
  words ["repeat", "space", "round", "no-repeat"]

def layerRepeat : Reader Printed :=
  firstOf [words ["repeat-x", "repeat-y"], do
    let x ← repeatWord
    let y := (← optional repeatWord).getD x
    return match Printed.plain x, Printed.plain y with
      | "repeat", "no-repeat" => Printed.ofText "repeat-x"
      | "no-repeat", "repeat" => Printed.ofText "repeat-y"
      | _, _ => if x = y then x else Printed.joinWith " " [x, y]]

def layerAttachment : Reader Printed :=
  words ["scroll", "fixed", "local"]

/-- The parts of a box that a background fills. -/
def backgroundBoxes : List String :=
  ["border-box", "padding-box", "content-box"]

def backgroundOrigin : Reader Printed :=
  words backgroundBoxes

def backgroundClip : Reader Printed :=
  words (backgroundBoxes ++ ["border", "text"])

structure Layer where
  color : Option Printed := none
  position : Option Position := none
  size : Option Printed := none
  image : Option Printed := none
  tile : Option Printed := none
  attachment : Option Printed := none
  origin : Option Printed := none
  clip : Option Printed := none

/-- Reads a part of a layer that has not been read yet. -/
def layerPart? {α : Type} (old : Option α) (r : Reader α) (put : α → Layer) : Reader Layer :=
  if old.isSome then fail else do return put (← r)

def layerPlace (layer : Layer) : Reader Layer := do
  if layer.position.isSome then fail
  let position ← position
  let size ← afterSlash layerSize
  return { layer with position := some position, size }

def backgroundStep (layer : Layer) : Reader Layer :=
  firstOf [
    layerPart? layer.color colorText fun p => { layer with color := some p },
    layerPlace layer,
    layerPart? layer.image image fun p => { layer with image := some p },
    layerPart? layer.tile layerRepeat fun p => { layer with tile := some p },
    layerPart? layer.attachment layerAttachment fun p => { layer with attachment := some p },
    layerPart? layer.origin backgroundOrigin fun p => { layer with origin := some p },
    layerPart? layer.clip backgroundClip fun p => { layer with clip := some p }]

/-- The parts of a layer in any order, at most `fuel` of them. -/
def layerParts (step : Layer → Reader Layer) (layer : Layer) : Nat → Reader Layer
  | 0 => pure layer
  | fuel + 1 => do
      match ← optional (step layer) with
      | none => pure layer
      | some layer => layerParts step layer fuel

namespace Layer

/-- A part, unless it is what is meant without it. -/
def unusual (part : Option Printed) (usual : String) : List Printed :=
  (part.filter (· ≠ Printed.ofText usual)).toList

def placeText (layer : Layer) (always : Bool) : List Printed :=
  let position := layer.position.getD .origin
  let size := unusual layer.size "auto"
  if !always ∧ position.isZero ∧ size.isEmpty then []
  else [Printed.joinWith "/" (Printed.ofText position.text :: size)]

/-- The box that the image is placed in, and the box that it fills. -/
def boxes (layer : Layer) : List Printed :=
  let origin := layer.origin.getD (Printed.ofText "padding-box")
  let clip := (layer.clip.or layer.origin).getD (Printed.ofText "border-box")
  let needsOrigin := origin ≠ Printed.ofText "padding-box" ∨
    (clip ≠ Printed.ofText "border-box" ∧ backgroundBoxes.contains (Printed.plain clip))
  let needsClip := (needsOrigin ∧ clip ≠ origin) ∨ clip ≠ Printed.ofText "border-box"
  (if needsOrigin then [origin] else []) ++ (if needsClip then [clip] else [])

/-- A background; if nothing has to be said, its position is. -/
def background (layer : Layer) : Printed :=
  let parts := unusual layer.color (Color.text .transparent) ++ unusual layer.image "none" ++
    layer.placeText false ++ unusual layer.tile "repeat" ++
    unusual layer.attachment "scroll" ++ layer.boxes
  Printed.joinWith " " (if parts.isEmpty then layer.placeText true else parts)

end Layer

def background : Reader Printed := do
  return (← layerParts backgroundStep {} 8).background

/-! ## Masks -/

def maskBoxes : List String :=
  ["border-box", "padding-box", "content-box", "margin-box", "fill-box", "stroke-box",
    "view-box"]

def maskComposite : Reader Printed :=
  words ["add", "subtract", "intersect", "exclude"]

def maskMode : Reader Printed :=
  words ["luminance", "alpha", "match-source"]

/-- One more part of a mask; the way in which it is combined stands for the attachment. -/
def maskStep (layer : Layer) : Reader Layer :=
  firstOf [
    layerPart? layer.image image fun p => { layer with image := some p },
    layerPlace layer,
    layerPart? layer.tile layerRepeat fun p => { layer with tile := some p },
    layerPart? layer.origin (words maskBoxes) fun p => { layer with origin := some p },
    layerPart? layer.clip (words ("no-clip" :: maskBoxes)) fun p => { layer with clip := some p },
    layerPart? layer.attachment maskComposite fun p => { layer with attachment := some p },
    layerPart? layer.color maskMode fun p => { layer with color := some p }]

/-- A mask, whose image is always printed. -/
def maskText (layer : Layer) : Printed :=
  let origin := layer.origin.getD (Printed.ofText "border-box")
  let clip := (layer.clip.or layer.origin).getD (Printed.ofText "border-box")
  let plainBoxes := origin = Printed.ofText "border-box" ∧ clip = Printed.ofText "border-box"
  let boxes := if plainBoxes then [] else if clip = origin then [origin] else [origin, clip]
  Printed.joinWith " " (layer.image.getD (Printed.ofText "none") :: layer.placeText false ++
    Layer.unusual layer.tile "repeat" ++ boxes ++ Layer.unusual layer.attachment "add" ++
    Layer.unusual layer.color "match-source")

def mask : Reader Printed := do
  return maskText (← layerParts maskStep {} 8)

end Reader

namespace Property

open Reader

def backgroundGroups : List PropertyGroup := [
  ⟨["background-color"], colorText⟩,
  ⟨["background-image", "mask-image"], commaList image⟩,
  ⟨["background-position-x", "mask-position-x"],
    commaList (positionPartText horizontalSide)⟩,
  ⟨["background-position-y", "mask-position-y"], commaList (positionPartText verticalSide)⟩,
  ⟨["background-position", "mask-position"], commaList positionText⟩,
  ⟨["background-size", "mask-size"], commaList layerSize⟩,
  ⟨["background-repeat", "mask-repeat"], commaList layerRepeat⟩,
  ⟨["background-attachment"], commaList layerAttachment⟩,
  ⟨["background-origin"], commaList backgroundOrigin⟩,
  ⟨["background-clip"], commaList backgroundClip⟩,
  ⟨["background"], commaList background⟩,
  ⟨["mask-origin"], commaList (words maskBoxes)⟩,
  ⟨["mask-clip"], commaList (words ("no-clip" :: maskBoxes))⟩,
  ⟨["mask-composite"], commaList maskComposite⟩,
  ⟨["mask-mode"], commaList maskMode⟩,
  ⟨["mask-type"], words ["luminance", "alpha"]⟩,
  ⟨["mask"], commaList mask⟩]

end Property

end Css

end StylePrune
