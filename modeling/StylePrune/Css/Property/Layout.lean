import StylePrune.Css.Value.Basic

/-!
# Layout

Properties of boxes: their kind, size, distances and place, and how they are lined up.
-/

namespace StylePrune

namespace Css

namespace Reader

/-! ## Kinds of boxes -/

/-- The kinds of boxes that are written as one word. -/
def boxKinds : List String :=
  ["none", "contents", "table-row-group", "table-header-group", "table-footer-group",
    "table-row", "table-cell", "table-column-group", "table-column", "table-caption",
    "ruby-base", "ruby-text", "ruby-base-container", "ruby-text-container", "inline-block",
    "inline-table", "inline-flex", "-webkit-inline-flex", "-ms-inline-flexbox",
    "-webkit-inline-box", "-moz-inline-box", "inline-grid"]

def outerKinds : List String :=
  ["block", "inline", "run-in"]

def innerKinds : List String :=
  ["flow", "flow-root", "table", "flex", "-webkit-flex", "-ms-flexbox", "-webkit-box",
    "-moz-box", "grid", "ruby"]

def inlineKind? (inner : String) : Option String :=
  match inner with
  | "flow-root" => some "inline-block"
  | "table" => some "inline-table"
  | "flex" => some "inline-flex"
  | "-webkit-flex" => some "-webkit-inline-flex"
  | "-ms-flexbox" => some "-ms-inline-flexbox"
  | "-webkit-box" => some "-webkit-inline-box"
  | "-moz-box" => some "-moz-inline-box"
  | "grid" => some "inline-grid"
  | _ => none

/-- The outer kind that a box has unless something else is said. -/
def usualOuter (inner : String) : String :=
  if inner = "ruby" then "inline" else "block"

/-- A kind of box in as few words as possible. -/
def boxKindText (outer inner : String) (isListItem : Bool) : String :=
  match if outer = "inline" ∧ !isListItem then inlineKind? inner else none with
  | some kind => kind
  | none =>
      let needsOuter := outer ≠ usualOuter inner ∨ (inner = "flow" ∧ !isListItem)
      String.intercalate " " ((if needsOuter then [outer] else []) ++
        (if inner = "flow" then [] else [inner]) ++ (if isListItem then ["list-item"] else []))

/-- A kind of box that is made up of parts in any order. -/
def composedKind : Reader Printed := do
  let parts ← anyOrder [words ["list-item"], words outerKinds, words innerKinds]
  match parts.map (Option.map Printed.plain) with
  | [item, outer, inner] =>
      let inner := inner.getD "flow"
      if item.isSome ∧ inner ≠ "flow" ∧ inner ≠ "flow-root" then fail
      else return boxKindText (outer.getD (usualOuter inner)) inner item.isSome
  | _ => fail

def display : Reader Printed :=
  firstOf [composedKind, words boxKinds]

/-! ## Sizes -/

def sizeWords : List String :=
  ["min-content", "-webkit-min-content", "-moz-min-content", "max-content",
    "-webkit-max-content", "-moz-max-content", "stretch", "-webkit-fill-available",
    "-moz-available", "fit-content", "-webkit-fit-content", "-moz-fit-content", "contain"]

def fitContent : Reader Printed := do
  let items ← functionNamed ["fit-content"]
  let limit ← inside lengthPercentageText items
  return [Piece.text "fit-content("] ++ limit ++ [Piece.text ")"]

/-- A size, or `missing` for none. -/
def size (missing : String) : Reader Printed :=
  firstOf [words (missing :: sizeWords), fitContent, lengthPercentageText]

def lengthOrAuto : Reader Printed :=
  lengthOr ["auto"]

/-- A number, or two of them with `/` between; a second one of one is left out. -/
def proportion : Reader Printed := do
  let a ← number
  match ← optional (delim '/') with
  | none => return Number.compact a
  | some _ =>
      let b ← number
      return if b = 1 then Number.compact a else Number.compact a ++ "/" ++ Number.compact b

/-! ## Alignment -/

def overflowWords : List String :=
  ["visible", "hidden", "clip", "scroll", "auto"]

def distributionWords : List String :=
  ["normal", "stretch", "space-between", "space-around", "space-evenly", "center", "start",
    "end", "flex-start", "flex-end"]

def itemWords : List String :=
  ["normal", "stretch", "center", "start", "end", "self-start", "self-end", "flex-start",
    "flex-end", "baseline"]

/-! ## Flexible boxes -/

def flexDirections : List String :=
  ["row", "row-reverse", "column", "column-reverse"]

def flexWraps : List String :=
  ["nowrap", "wrap", "wrap-reverse"]

/-- The direction and the wrapping of a row; at least one of them is printed. -/
def flexFlow : Reader Printed := do
  let parts ← fillSlots [some (words flexDirections), some (words flexWraps)] [none, none] 2
  let text (i : Nat) (usual : String) : String :=
    (((parts[i]?).bind fun p => p).map Printed.plain).getD usual
  let direction := text 0 "row"
  let wrap := text 1 "nowrap"
  return String.intercalate " " (
    (if direction ≠ "row" ∨ wrap = "nowrap" then [direction] else []) ++
      (if wrap ≠ "nowrap" then [wrap] else []))

/-- How a box grows, how it shrinks, and the size before that; `none` is `auto`. -/
structure Flex where
  grow : Rat
  shrink : Rat
  basis : Option Measure

namespace Flex

/-- No number is printed where the numbers are one, and no basis that is zero percent. -/
def text (f : Flex) : String :=
  if f.grow = 0 ∧ f.shrink = 0 ∧ f.basis = none then "none"
  else
    let isZeroLength := match f.basis with
      | some (.quantity value unit) => value == 0 && unit != percentSign
      | _ => false
    let isZeroPercent := f.basis == some (.quantity 0 percentSign)
    let plain := f.grow = 1 ∧ f.shrink = 1
    let numbers :=
      if plain ∧ !isZeroLength ∧ !isZeroPercent then []
      else if f.shrink ≠ 1 ∨ isZeroLength then [Number.compact f.grow, Number.compact f.shrink]
      else [Number.compact f.grow]
    let basis :=
      if isZeroPercent then [] else [(f.basis.map Measure.text).getD "auto"]
    String.intercalate " " (numbers ++ basis)

end Flex

def flexParts (numbers : Option (Rat × Option Rat)) (basis : Option (Option Measure)) :
    Nat → Reader Flex
  | 0 => fail
  | fuel + 1 => do
      let found ← if numbers.isSome then pure none else optional (do
        let grow ← number
        return (grow, ← optional number))
      match found with
      | some pair => flexParts (some pair) basis fuel
      | none =>
          let found ← if basis.isSome then pure none else
            optional (firstOf [do
              word "auto"
              pure none,
              do return some (← lengthPercentage)])
          match found with
          | some b => flexParts numbers (some b) fuel
          | none =>
              let (grow, shrink) := numbers.getD (1, none)
              pure ⟨grow, shrink.getD 1, basis.getD (some (.quantity 0 percentSign))⟩

def flex : Reader Printed :=
  firstOf [do
    word "none"
    return "none",
    do return (← flexParts none none 3).text]

/-! ## Grids -/

/-- A row of the areas of a grid, with single dots for empty places. -/
def areaRow (s : String) : List String :=
  (Text.words s.toList).map fun cell =>
    if cell.all (· == '.') then "." else String.ofList cell

def gridAreas : Reader Printed := do
  let rows := (← many string).map areaRow
  let width := (rows.head?.map List.length).getD 0
  if width = 0 ∨ rows.any (·.length ≠ width) then fail
  else return String.join (rows.map fun row => stringText (String.intercalate " " row))

def gridAutoFlow : Reader Printed := do
  let parts ← anyOrder [words ["row", "column"], words ["dense"]]
  match parts.map (Option.map Printed.plain) with
  | [some "column", some _] => return "column dense"
  | [_, some _] => return "dense"
  | [some direction, none] => return direction
  | _ => fail

end Reader

namespace Property

open Reader

def layoutGroups : List PropertyGroup := [
  ⟨["display"], display⟩,
  ⟨["visibility"], words ["visible", "hidden", "collapse"]⟩,
  ⟨["position"], words ["static", "relative", "absolute", "sticky", "-webkit-sticky", "fixed"]⟩,
  ⟨["box-sizing"], words ["content-box", "border-box"]⟩,
  ⟨["width", "height", "min-width", "min-height", "block-size", "inline-size",
    "min-block-size", "min-inline-size"], size "auto"⟩,
  ⟨["max-width", "max-height", "max-block-size", "max-inline-size"], size "none"⟩,
  ⟨["aspect-ratio"], inOrder [words ["auto"], proportion]⟩,
  ⟨["overflow"], pair (words overflowWords)⟩,
  ⟨["overflow-x", "overflow-y"], words overflowWords⟩,
  ⟨["text-overflow"], words ["clip", "ellipsis"]⟩,
  ⟨["top", "bottom", "left", "right", "inset-block-start", "inset-block-end",
    "inset-inline-start", "inset-inline-end", "margin-top", "margin-bottom", "margin-left",
    "margin-right", "margin-block-start", "margin-block-end", "margin-inline-start",
    "margin-inline-end", "padding-top", "padding-bottom", "padding-left", "padding-right",
    "padding-block-start", "padding-block-end", "padding-inline-start", "padding-inline-end",
    "scroll-padding-top", "scroll-padding-bottom", "scroll-padding-left",
    "scroll-padding-right", "scroll-padding-block-start", "scroll-padding-block-end",
    "scroll-padding-inline-start", "scroll-padding-inline-end", "flex-basis",
    "flex-preferred-size"], lengthOrAuto⟩,
  ⟨["inset-block", "inset-inline", "margin-block", "margin-inline", "padding-block",
    "padding-inline", "scroll-padding-block", "scroll-padding-inline"], pair lengthOrAuto⟩,
  ⟨["inset", "margin", "padding", "scroll-padding"], sides lengthOrAuto⟩,
  ⟨["scroll-margin-top", "scroll-margin-bottom", "scroll-margin-left", "scroll-margin-right",
    "scroll-margin-block-start", "scroll-margin-block-end", "scroll-margin-inline-start",
    "scroll-margin-inline-end"], lengthText⟩,
  ⟨["scroll-margin-block", "scroll-margin-inline"], pair lengthText⟩,
  ⟨["scroll-margin"], sides lengthText⟩,
  ⟨["z-index"], firstOf [words ["auto"], integerText]⟩,
  ⟨["order", "box-ordinal-group", "box-flex-group", "flex-order"], integerText⟩,
  ⟨["flex-direction"], words flexDirections⟩,
  ⟨["flex-wrap"], words flexWraps⟩,
  ⟨["flex-flow"], flexFlow⟩,
  ⟨["flex-grow", "flex-shrink", "box-flex", "flex-positive", "flex-negative"], numberText⟩,
  ⟨["flex"], flex⟩,
  ⟨["box-orient"], words ["horizontal", "vertical", "inline-axis", "block-axis"]⟩,
  ⟨["box-direction"], words ["normal", "reverse"]⟩,
  ⟨["box-align"], words ["start", "end", "center", "baseline", "stretch"]⟩,
  ⟨["box-pack"], words ["start", "end", "center", "justify"]⟩,
  ⟨["box-lines"], words ["single", "multiple"]⟩,
  ⟨["flex-pack"], words ["start", "end", "center", "justify", "distribute"]⟩,
  ⟨["flex-align"], words ["start", "end", "center", "baseline", "stretch"]⟩,
  ⟨["flex-item-align"], words ["auto", "start", "end", "center", "baseline", "stretch"]⟩,
  ⟨["flex-line-pack"],
    words ["start", "end", "center", "justify", "distribute", "stretch"]⟩,
  ⟨["align-content"], words ("baseline" :: distributionWords)⟩,
  ⟨["justify-content"], words ("left" :: "right" :: distributionWords)⟩,
  ⟨["place-content"], pair (words distributionWords)⟩,
  ⟨["align-items"], words itemWords⟩,
  ⟨["justify-items"], words ("left" :: "right" :: itemWords)⟩,
  ⟨["place-items"], pair (words itemWords)⟩,
  ⟨["align-self"], words ("auto" :: itemWords)⟩,
  ⟨["justify-self"], words ("auto" :: "left" :: "right" :: itemWords)⟩,
  ⟨["place-self"], pair (words ("auto" :: itemWords))⟩,
  ⟨["row-gap", "column-gap"], lengthOr ["normal"]⟩,
  ⟨["gap"], pair (lengthOr ["normal"])⟩,
  ⟨["grid-template-areas"], firstOf [words ["none"], gridAreas]⟩,
  ⟨["grid-auto-flow"], gridAutoFlow⟩,
  ⟨["box-decoration-break"], words ["slice", "clone"]⟩,
  ⟨["container-type"], words ["normal", "inline-size", "size"]⟩]

end Property

end Css

end StylePrune
