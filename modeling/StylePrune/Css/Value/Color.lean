import StylePrune.Css.Value.ColorName
import StylePrune.Css.Value.Measure

/-!
# Colours

Colours in all their notations.  A colour of the usual space is printed in its shortest
notation: a short name, or hexadecimal digits.
-/

namespace StylePrune

namespace Css

inductive Color
  /-- The colour of the text. -/
  | current
  /-- Red, green, blue and opacity as bytes. -/
  | rgba (red green blue alpha : Nat)
  | system (name : String)
  /-- A colour of another space, in its own notation. -/
  | other (text : String)
  deriving DecidableEq, Repr

namespace Color

def transparent : Color :=
  .rgba 0 0 0 0

def ofHex (n : Nat) : Color :=
  .rgba (n / 65536 % 256) (n / 256 % 256) (n % 256) 255

def named? (name : String) : Option Color :=
  let name := Text.lower name
  if name = "currentcolor" then some .current
  else if name = "transparent" then some .transparent
  else
    match names.find? fun p => p.1 == name with
    | some p => some (ofHex p.2)
    | none => if systemNames.contains name then some (.system name) else none

def ofDigits? (digits : List Char) : Option Color :=
  if digits.all Text.isHexDigit then
    match digits.map Text.hexValue with
    | [r, g, b] => some (.rgba (17 * r) (17 * g) (17 * b) 255)
    | [r, g, b, a] => some (.rgba (17 * r) (17 * g) (17 * b) (17 * a))
    | [r, r', g, g', b, b'] => some (.rgba (16 * r + r') (16 * g + g') (16 * b + b') 255)
    | [r, r', g, g', b, b', a, a'] =>
        some (.rgba (16 * r + r') (16 * g + g') (16 * b + b') (16 * a + a'))
    | _ => none
  else none

/-! ## Printing -/

def byteDigits (n : Nat) : List Char :=
  [Nat.digitChar (n / 16), Nat.digitChar (n % 16)]

/-- Bytes in hexadecimal notation, with one digit each where that is enough. -/
def hexText (bytes : List Nat) : String :=
  if bytes.all fun n => n / 16 == n % 16 then
    String.ofList ('#' :: bytes.map fun n => Nat.digitChar (n % 16))
  else String.ofList ('#' :: bytes.flatMap byteDigits)

def shortName? (c : Color) : Option String :=
  shortNames.find? fun name => named? name == some c

def text : Color → String
  | current => "currentColor"
  | rgba r g b a =>
      if a = 255 then
        match shortName? (.rgba r g b 255) with
        | some name => name
        | none => hexText [r, g, b]
      else hexText [r, g, b, a]
  | system name => name
  | other s => s

/-! ## Conversion -/

def clampTo (limit : Nat) (q : Rat) : Nat :=
  min limit (Number.round q).toNat

def byteOf (q : Rat) : Nat :=
  clampTo 255 (255 * q)

def clampUnit (q : Rat) : Rat :=
  Number.clamp 0 1 q

/-- The remainder of a division by a positive number. -/
def remainder (q : Rat) (n : Nat) : Rat :=
  q - n * ((q / n).floor : Rat)

/-- The part of a primary colour in a colour of hue, saturation and lightness. -/
def hslPart (hue saturation lightness : Rat) (n : Nat) : Rat :=
  let k := remainder (n + hue / 30) 12
  let a := saturation * Number.least lightness (1 - lightness)
  lightness - a * Number.greatest (-1) (Number.least (k - 3) (Number.least (9 - k) 1))

def ofHsl (hue saturation lightness alpha : Rat) : Color :=
  let part := hslPart hue (clampUnit saturation) (clampUnit lightness)
  .rgba (byteOf (part 0)) (byteOf (part 8)) (byteOf (part 4)) (byteOf alpha)

def ofHwb (hue white black alpha : Rat) : Color :=
  let white := clampUnit white
  let black := clampUnit black
  if white + black ≥ 1 then
    let gray := byteOf (white / (white + black))
    .rgba gray gray gray (byteOf alpha)
  else
    let part (n : Nat) : Nat := byteOf (hslPart hue 1 (1 / 2) n * (1 - white - black) + white)
    .rgba (part 0) (part 8) (part 4) (byteOf alpha)

end Color

namespace Reader

inductive Part
  | number (q : Rat)
  | percent (q : Rat)
  | missing

def part : Reader Part := do
  match ← next with
  | .token (.number n) _ => pure (.number n.value)
  | .token (.percentage n) _ => pure (.percent n.value)
  | .token (.ident name) _ => if Text.lower name = "none" then pure .missing else fail
  | _ => fail

/-- The size of a full turn in an angle's unit. -/
def degreesOf? (value : Rat) (unit : String) : Option Rat :=
  match unit with
  | "deg" => some value
  | "grad" => some (value * 9 / 10)
  | "turn" => some (value * 360)
  | "rad" => some (value * 57295779513 / 1000000000)
  | _ => none

def hue : Reader Rat := do
  match ← next with
  | .token (.number n) _ => pure n.value
  | .token (.dimension n unit) _ => ofOption (degreesOf? n.value (Text.lower unit))
  | .token (.ident name) _ => if Text.lower name = "none" then pure 0 else fail
  | _ => fail

namespace Part

/-- The component as a fraction, where `full` is the number for all of it. -/
def fraction (full : Rat) : Part → Rat
  | number q => q / full
  | percent q => q / 100
  | missing => 0

def isNumber : Part → Bool
  | number _ => true
  | _ => false

def isPercent : Part → Bool
  | percent _ => true
  | _ => false

/-- The component as a number, where `full` is the number for all of it. -/
def text (full : Rat) : Part → String
  | number q => Number.compact q
  | percent q => Number.compact (q / 100 * full)
  | missing => "none"

end Part

def alphaAfter (separator : Reader Unit) : Reader Rat := do
  match ← optional separator with
  | none => pure 1
  | some _ => return Color.clampUnit ((← part).fraction 1)

def rgbArguments : Reader Color := do
  let r ← part
  let legacy := (← optional comma).isSome
  let g ← part
  if legacy then comma
  let b ← part
  let alike := if r.isNumber then g.isNumber && b.isNumber else g.isPercent && b.isPercent
  if legacy && !alike then fail
  let alpha ← alphaAfter (if legacy then comma else delim '/')
  let byte (p : Part) : Nat := match p with
    | .number q => Color.clampTo 255 q
    | .percent q => Color.byteOf (q / 100)
    | .missing => 0
  return .rgba (byte r) (byte g) (byte b) (Color.byteOf alpha)

/-- The arguments of a colour with a hue, which may have commas between them. -/
def hueArguments (commas : Bool) (make : Rat → Rat → Rat → Rat → Color) : Reader Color := do
  let h ← hue
  let legacy := commas && (← optional comma).isSome
  let s ← part
  if legacy then comma
  let l ← part
  if legacy && !(s.isPercent && l.isPercent) then fail
  let alpha ← alphaAfter (if legacy then comma else delim '/')
  return make h (s.fraction 100) (l.fraction 100) alpha

def alphaText : Reader String := do
  let alpha ← alphaAfter (delim '/')
  return if alpha = 1 then "" else "/" ++ Number.compact alpha

def labArguments (name : String) (light full : Rat) : Reader Color := do
  let l ← part
  let a ← part
  let b ← part
  let alpha ← alphaText
  let l := match l with
    | .missing => "none"
    | l => dimensionText (Number.clamp 0 100 (l.fraction light * 100)) percentSign
  return .other (name ++ "(" ++ l ++ " " ++ a.text full ++ " " ++ b.text full ++ alpha ++ ")")

def lchArguments (name : String) (light full : Rat) : Reader Color := do
  let l ← part
  let c ← part
  let h ← hue
  let alpha ← alphaText
  let l := match l with
    | .missing => "none"
    | l => dimensionText (Number.clamp 0 100 (l.fraction light * 100)) percentSign
  return .other (name ++ "(" ++ l ++ " " ++ c.text full ++ " " ++ Number.compact h ++ alpha ++ ")")

def colorSpaces : List String :=
  ["srgb", "srgb-linear", "display-p3", "a98-rgb", "prophoto-rgb", "rec2020", "xyz", "xyz-d50",
    "xyz-d65"]

def spaceArguments : Reader Color := do
  let space ← oneOf colorSpaces
  let a ← part
  let b ← part
  let c ← part
  let alpha ← alphaText
  let space := if space = "xyz-d65" then "xyz" else space
  return .other ("color(" ++ space ++ " " ++ a.text 1 ++ " " ++ b.text 1 ++ " " ++ c.text 1 ++
    alpha ++ ")")

def colorArguments (name : String) : Reader Color :=
  match name with
  | "rgb" | "rgba" => rgbArguments
  | "hsl" | "hsla" => hueArguments true Color.ofHsl
  | "hwb" => hueArguments false Color.ofHwb
  | "lab" => labArguments name 100 125
  | "lch" => lchArguments name 100 150
  | "oklab" => labArguments name 1 (4 / 10)
  | "oklch" => lchArguments name 1 (4 / 10)
  | "color" => spaceArguments
  | _ => fail

def colorFunction? (name : String) (items : List Component) : Option Color :=
  all? (colorArguments (Text.lower name)) items

def color : Reader Color := do
  match ← next with
  | .token (.ident name) _ => ofOption (Color.named? name)
  | .token (.hash digits _) _ => ofOption (Color.ofDigits? digits.toList)
  | .function name _ items _ => ofOption (colorFunction? name items)
  | _ => fail

end Reader

end Css

end StylePrune
