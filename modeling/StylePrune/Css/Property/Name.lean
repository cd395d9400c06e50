import StylePrune.Text.Scalar

/-!
# Names of properties

The names that browsers know, and the prefixes that vendors have given to some of them.
-/

namespace StylePrune

namespace Css

namespace Property

def vendorPrefixes : List (List String × List String) := [
  (["background-clip", "box-shadow", "box-sizing", "border-radius", "border-top-left-radius",
      "border-top-right-radius", "border-bottom-left-radius", "border-bottom-right-radius",
      "transform-style", "backface-visibility", "perspective", "perspective-origin",
      "text-decoration", "text-decoration-line", "text-decoration-style",
      "text-decoration-color", "box-orient", "box-direction", "box-ordinal-group", "box-align",
      "box-flex", "box-flex-group", "box-pack", "box-lines"],
    ["-webkit-", "-moz-"]),
  (["text-overflow"], ["-o-"]),
  (["border-image"], ["-webkit-", "-moz-", "-o-"]),
  (["flex-direction", "flex-wrap", "flex-flow", "flex"], ["-webkit-", "-ms-"]),
  (["flex-grow", "flex-shrink", "flex-basis", "order", "align-content", "justify-content",
      "align-self", "align-items", "text-decoration-skip-ink", "text-emphasis",
      "text-emphasis-style", "text-emphasis-color", "text-emphasis-position",
      "box-decoration-break", "clip-path", "mask", "mask-image", "mask-repeat", "mask-position",
      "mask-clip", "mask-origin", "mask-size", "mask-composite", "mask-box-image",
      "mask-box-image-source", "mask-box-image-width", "mask-box-image-outset",
      "mask-box-image-repeat", "mask-box-image-slice", "filter", "backdrop-filter",
      "print-color-adjust"],
    ["-webkit-"]),
  (["flex-pack", "flex-order", "flex-align", "flex-item-align", "flex-line-pack",
      "flex-positive", "flex-negative", "flex-preferred-size"],
    ["-ms-"]),
  (["transition", "transition-property", "transition-duration", "transition-delay",
      "transition-timing-function"],
    ["-webkit-", "-moz-", "-ms-"]),
  (["animation", "animation-name", "animation-duration", "animation-timing-function",
      "animation-iteration-count", "animation-direction", "animation-play-state",
      "animation-delay", "animation-fill-mode"],
    ["-webkit-", "-moz-", "-o-"]),
  (["transform", "transform-origin"], ["-webkit-", "-moz-", "-ms-", "-o-"]),
  (["tab-size"], ["-moz-", "-o-"]),
  (["hyphens", "text-size-adjust", "user-select", "appearance"], ["-webkit-", "-moz-", "-ms-"]),
  (["text-align-last"], ["-moz-"])]

/-- The properties that exist with a prefix only. -/
def prefixedOnly : List String :=
  ["box-orient", "box-direction", "box-ordinal-group", "box-align", "box-flex", "box-flex-group",
    "box-pack", "box-lines", "flex-pack", "flex-order", "flex-align", "flex-item-align",
    "flex-line-pack", "flex-positive", "flex-negative", "flex-preferred-size", "mask-box-image",
    "mask-box-image-source", "mask-box-image-width", "mask-box-image-outset",
    "mask-box-image-repeat", "mask-box-image-slice"]

def prefixed? (name : String) : Option (String × String) :=
  vendorPrefixes.findSome? fun (bases, leads) =>
    leads.findSome? fun lead =>
      (bases.find? fun base => lead ++ base == name).map fun base => (lead, base)

/-- The properties whose values are kept as they are. -/
def otherNames : List String := [
  "grid-template-columns", "grid-template-rows", "grid-auto-columns", "grid-auto-rows",
  "grid-template", "grid", "grid-row-start", "grid-row-end", "grid-column-start",
  "grid-column-end", "grid-row", "grid-column", "grid-area", "font-palette",
  "animation-timeline", "animation-range-start", "animation-range-end", "animation-range",
  "translate", "rotate", "scale", "text-emphasis-style", "text-emphasis",
  "text-emphasis-position", "caret", "composes", "clip-path", "mask-border-source",
  "mask-border-mode", "mask-border-slice", "mask-border-width", "mask-border-outset",
  "mask-border-repeat", "mask-border", "container-name", "container", "view-transition-name",
  "view-transition-class", "view-transition-group", "color-scheme"]

end Property

end Css

end StylePrune
