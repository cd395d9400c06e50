import StylePrune.Css.Value.Family
import StylePrune.Css.Value.Image

/-!
# Text

Fonts, lines and the decoration of text, and the marks of lists.
-/

namespace StylePrune

namespace Css

namespace Reader

/-! ## Fonts -/

def fontSize : Reader Printed :=
  lengthOr ["xx-small", "x-small", "small", "medium", "large", "x-large", "xx-large",
    "xxx-large", "smaller", "larger"]

def lineHeight : Reader Printed :=
  firstOf [words ["normal"], numberText, lengthPercentageText]

/-- What stands before the size of a font; the last part counts the words. -/
structure FontLead where
  style : Option Printed := none
  weight : Option Printed := none
  caps : Option Printed := none
  width : Option Printed := none
  count : Nat := 0

def fontLeadStep (lead : FontLead) : Reader FontLead :=
  firstOf [
    do
      word "normal"
      return { lead with count := lead.count + 1 },
    do
      if lead.style.isSome then fail
      return { lead with style := some (← fontSlope), count := lead.count + 1 },
    do
      if lead.weight.isSome then fail
      return { lead with weight := some (← fontWeight), count := lead.count + 1 },
    do
      if lead.caps.isSome then fail
      return { lead with caps := some (← words ["small-caps"]), count := lead.count + 1 },
    do
      if lead.width.isSome then fail
      return { lead with width := some (← fontWidthWord), count := lead.count + 1 }]

def fontLead (lead : FontLead) : Nat → Reader FontLead
  | 0 => fail
  | fuel + 1 => do
      match ← optional (fontLeadStep lead) with
      | none => if lead.count > 4 then fail else pure lead
      | some lead => fontLead lead fuel

/-- A font: its style, caps, weight and width, its size with the height of a line, its families. -/
def font : Reader Printed := do
  let lead ← fontLead {} 6
  let size ← fontSize
  let height ← match ← optional (delim '/') with
    | none => pure none
    | some _ => do
        let h ← lineHeight
        pure (if h = Printed.ofText "normal" then none else some h)
  let families ← commaList family
  let size := match height with
    | none => size
    | some h => Printed.joinWith "/" [size, h]
  let style := lead.style.filter (· ≠ Printed.ofText "normal")
  let shown := [style, lead.caps, lead.weight, lead.width].filterMap id
  return Printed.joinWith " " (shown ++ [size, families])

/-! ## Decoration -/

/-- The lines of a decoration that can stand together, in the order in which they are printed. -/
def decorationLines : List String :=
  ["underline", "overline", "line-through", "blink"]

def decorationLine : Reader Printed :=
  firstOf [words ["none", "spelling-error", "grammar-error"], do
    let found := (← many (oneOf decorationLines))
    if found.isEmpty then fail
    else return String.intercalate " " (decorationLines.filter found.contains)]

def decorationStyle : Reader Printed :=
  words ["solid", "double", "dotted", "dashed", "wavy"]

def decorationThickness : Reader Printed :=
  lengthOr ["auto", "from-font"]

/-- A decoration; without lines nothing else is printed. -/
def decoration : Reader Printed := do
  let readers := [decorationLine, decorationThickness, decorationStyle, colorText]
  let filled ← fillSlots (readers.map some) (readers.map fun _ => none) readers.length
  match filled with
  | [line, thickness, style, color] =>
      match line.filter (· ≠ Printed.ofText "none") with
      | none => return "none"
      | some line =>
          let tail := [thickness.filter (· ≠ Printed.ofText "auto"),
            style.filter (· ≠ Printed.ofText "solid"),
            color.filter (· ≠ Printed.ofText (Color.text .current))]
          return Printed.joinWith " " (line :: tail.filterMap id)
  | _ => fail

def textIndent : Reader Printed :=
  inOrder [lengthPercentageText, words ["hanging"], words ["each-line"]]

def spacing : Reader Printed :=
  firstOf [words ["normal"], lengthText]

def textAlignments : List String :=
  ["start", "end", "left", "right", "center", "justify", "match-parent"]

/-! ## Lists -/

/-- The marks of lists that have names of their own. -/
def counterStyles : List String :=
  ["decimal", "decimal-leading-zero", "arabic-indic", "armenian", "upper-armenian",
    "lower-armenian", "bengali", "cambodian", "khmer", "cjk-decimal", "devanagari", "georgian",
    "gujarati", "gurmukhi", "hebrew", "kannada", "lao", "malayalam", "mongolian", "myanmar",
    "oriya", "persian", "lower-roman", "upper-roman", "tamil", "telugu", "thai", "tibetan",
    "lower-alpha", "lower-latin", "upper-alpha", "upper-latin", "lower-greek", "hiragana",
    "hiragana-iroha", "katakana", "katakana-iroha", "disc", "circle", "square",
    "disclosure-open", "disclosure-closed", "cjk-earthly-branch", "cjk-heavenly-stem",
    "japanese-informal", "japanese-formal", "korean-hangul-formal", "korean-hanja-informal",
    "korean-hanja-formal", "simp-chinese-informal", "simp-chinese-formal",
    "trad-chinese-informal", "trad-chinese-formal", "ethiopic-numeric"]

def listMark : Reader Printed :=
  firstOf [words ("none" :: counterStyles), do return stringText (← string), customIdentText]

def listPosition : Reader Printed :=
  words ["inside", "outside"]

def listStyle : Reader Printed :=
  shorthand [(image, "none"), (listMark, "disc"), (listPosition, "outside")] "none"

end Reader

namespace Property

open Reader

def textGroups : List PropertyGroup := [
  ⟨["color", "text-decoration-color", "text-emphasis-color"], colorText⟩,
  ⟨["font-weight"], fontWeight⟩,
  ⟨["font-size"], fontSize⟩,
  ⟨["font-stretch"], fontWidth⟩,
  ⟨["font-family"], commaList family⟩,
  ⟨["font-style"], fontSlope⟩,
  ⟨["font-variant-caps"], words ["normal", "small-caps", "all-small-caps", "petite-caps",
    "all-petite-caps", "unicase", "titling-caps"]⟩,
  ⟨["line-height"], lineHeight⟩,
  ⟨["font"], font⟩,
  ⟨["vertical-align"], lengthOr ["baseline", "sub", "super", "top", "text-top", "middle",
    "bottom", "text-bottom"]⟩,
  ⟨["text-transform"],
    inOrder [words ["none", "uppercase", "lowercase", "capitalize"], words ["full-width"],
      words ["full-size-kana"]]⟩,
  ⟨["white-space"], words ["normal", "pre", "nowrap", "pre-wrap", "break-spaces", "pre-line"]⟩,
  ⟨["tab-size"], firstOf [numberText, lengthText]⟩,
  ⟨["word-break"], words ["normal", "keep-all", "break-all", "break-word"]⟩,
  ⟨["line-break"], words ["auto", "loose", "normal", "strict", "anywhere"]⟩,
  ⟨["hyphens"], words ["none", "manual", "auto"]⟩,
  ⟨["overflow-wrap", "word-wrap"], words ["normal", "anywhere", "break-word"]⟩,
  ⟨["text-align"], words ("justify-all" :: textAlignments)⟩,
  ⟨["text-align-last"], words ("auto" :: textAlignments)⟩,
  ⟨["text-justify"], words ["auto", "none", "inter-word", "inter-character"]⟩,
  ⟨["word-spacing", "letter-spacing"], spacing⟩,
  ⟨["text-indent"], textIndent⟩,
  ⟨["text-decoration-line"], decorationLine⟩,
  ⟨["text-decoration-style"], decorationStyle⟩,
  ⟨["text-decoration-thickness"], decorationThickness⟩,
  ⟨["text-decoration"], decoration⟩,
  ⟨["text-decoration-skip-ink"], words ["auto", "none", "all"]⟩,
  ⟨["text-size-adjust"], firstOf [words ["auto", "none"], measureText percentage]⟩,
  ⟨["direction"], words ["ltr", "rtl"]⟩,
  ⟨["unicode-bidi"], words ["normal", "embed", "isolate", "bidi-override", "isolate-override",
    "plaintext"]⟩,
  ⟨["list-style-type"], listMark⟩,
  ⟨["list-style-image"], image⟩,
  ⟨["list-style-position"], listPosition⟩,
  ⟨["list-style"], listStyle⟩,
  ⟨["marker-side"], words ["match-self", "match-parent"]⟩]

end Property

end Css

end StylePrune
