import StylePrune.Css.Value.Gradient

/-!
# Images

References to images, gradients, and sets of images for different resolutions.
-/

namespace StylePrune

namespace Css

namespace Reader

/-- A resolution in an image set, where `x` is the unit of dots per pixel. -/
def imageResolution : Reader String := do
  match ← resolution with
  | .quantity value unit => return dimensionText value (if unit = "dppx" then "x" else unit)
  | .computed text => return text

def fileType : Reader String := do
  let items ← functionNamed ["type"]
  let name ← inside string items
  return " type(" ++ stringText name ++ ")"

def imageDetails : Reader String := do
  match ← optional imageResolution with
  | some r => return " " ++ r ++ (← optional fileType).getD ""
  | none =>
      let type ← optional fileType
      let r ← optional imageResolution
      return " " ++ r.getD "1x" ++ type.getD ""

/-- The text of a reference that is kept as it is. -/
def plainReference (quoted : Bool) (target : String) : String :=
  if quoted then stringText target else urlText target

/-- An image of a set; references in a set are kept as they are. -/
def imageOption (quoted : Bool) : Reader Printed := do
  let image : Printed ← firstOf [do return plainReference quoted (← urlOrString), gradient]
  let details ← imageDetails
  return image ++ [Piece.text details]

/-- A set of images; its old name does not allow strings. -/
def imageSet : Reader Printed := do
  let (name, items) ← function
  if name = "image-set" ∨ name = "-webkit-image-set" then
    let images ← inside (commaList (imageOption (name = "image-set"))) items
    return .text (name ++ "(") :: images ++ [.text ")"]
  else fail

def image : Reader Printed :=
  firstOf [words ["none"], urlPiece, gradient, imageSet]

end Reader

end Css

end StylePrune
