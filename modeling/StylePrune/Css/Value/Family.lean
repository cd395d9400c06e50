import StylePrune.Css.Value.Basic

/-!
# Font families

Names of font families, which need quotes only where they could mean something else.
-/

namespace StylePrune

namespace Css

/-- The families that stand for a kind of font, and the words of the cascade. -/
def genericFamilies : List String :=
  ["serif", "sans-serif", "cursive", "fantasy", "monospace", "system-ui", "emoji", "math",
    "fangsong", "ui-serif", "ui-sans-serif", "ui-monospace", "ui-rounded", "initial", "inherit",
    "unset", "default", "revert", "revert-layer"]

/-- A name as identifiers with spaces between them, or in quotes where that is shorter. -/
def familyText (name : String) : String :=
  let words := String.intercalate " " ((name.splitOn " ").map identText)
  if name ≠ "" ∧ !genericFamilies.contains (Text.lower name) ∧
      words.utf8ByteSize < name.utf8ByteSize + 2 then words
  else stringText name

namespace Reader

/-- A family: a string, a generic family or identifiers. -/
def family : Reader Printed :=
  firstOf [do return familyText (← string), words genericFamilies, do
    let first ← ident
    let more ← many ident
    return familyText (String.intercalate " " (first :: more))]

def fontWeight : Reader Printed :=
  firstOf [numberText, do
    match ← oneOf ["normal", "bold", "bolder", "lighter"] with
    | "normal" => return "400"
    | "bold" => return "700"
    | w => return w]

/-- The widths of a font, as percentages. -/
def fontWidths : List (String × String) := [
  ("normal", "100%"), ("ultra-condensed", "50%"), ("extra-condensed", "62.5%"),
  ("condensed", "75%"), ("semi-condensed", "87.5%"), ("semi-expanded", "112.5%"),
  ("expanded", "125%"), ("extra-expanded", "150%"), ("ultra-expanded", "200%")]

def fontWidthWord : Reader Printed := do
  let w ← keyword
  match fontWidths.find? fun p => p.1 == w with
  | some (_, text) => return text
  | none => fail

def fontWidth : Reader Printed :=
  firstOf [fontWidthWord, measureText percentage]

/-- The slope of a font; the usual angle is not printed. -/
def fontSlope : Reader Printed := do
  match ← oneOf ["normal", "italic", "oblique"] with
  | "oblique" => do
      match ← optional angle with
      | some (.quantity value unit) =>
          return if value = 14 ∧ unit = "deg" then "oblique"
            else "oblique " ++ quantityText value unit
      | some (.computed text) => return "oblique " ++ text
      | none => return "oblique"
  | w => return w

end Reader

end Css

end StylePrune
