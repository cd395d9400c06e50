import StylePrune.Css.Statement
import StylePrune.Css.Value.Family

/-!
# Descriptors

The declarations of rules that describe a thing rather than elements: fonts, palettes,
registered properties and view transitions.
-/

namespace StylePrune

namespace Css

namespace Reader

/--
A descriptor, whose value is kept as it is if it is not understood.  No descriptor can be
important.
-/
def descriptor (known : List (String × Reader Printed)) : Reader Printed := do
  let written ← ident
  colon
  let value ← rest
  if value.any (Component.isDelim '!') then fail
  let name := Text.lower written
  let understood := (known.find? fun k => k.1 == name).bind fun k => all? k.2 value
  match understood with
  | some p => return .text (name ++ ":") :: p
  | none => do
      let p ← ofOption (verbatim? .compact value)
      return .text (identText written ++ ":") :: p

/-- A block of descriptors, in brackets, without those that cannot be read. -/
def descriptors (known : List (String × Reader Printed)) (items : List Component) : Printed :=
  let ps := (statements items).filterMap (statement? (descriptor known))
  .text "\x7b" :: Printed.joinWith ";" ps ++ [.text "\x7d"]

/-! ## Fonts -/

/-- The font formats that are printed in lower case. -/
def fontFormats : List String :=
  ["woff", "woff2", "truetype", "opentype", "embedded-opentype", "collection", "svg"]

def fontFormat : Reader String := do
  let name ← identOrString
  let known := Text.lower name
  pure (stringText (if fontFormats.contains known then known else name))
where
  identOrString : Reader String :=
    firstOf [ident, string]

def fontTechnology : Reader Printed :=
  words ["features-opentype", "features-aat", "features-graphite", "color-colrv0",
    "color-colrv1", "color-svg", "color-sbix", "color-cbdt", "variations", "palettes",
    "incremental"]

def fontSource : Reader Printed :=
  firstOf [do
    let target ← url
    let format ← optional (functionNamed ["format"])
    let format ← match format with
      | some items => do
          let f ← inside fontFormat items
          pure ("format(" ++ f ++ ")")
      | none => pure ""
    let technology ← optional (functionNamed ["tech"])
    let technology ← match technology with
      | some items => do
          let t ← inside (commaList fontTechnology) items
          pure ([Piece.text "tech("] ++ t ++ [Piece.text ")"])
      | none => pure []
    pure ([Piece.url target, Piece.text format] ++ technology),
    do
      let items ← functionNamed ["local"]
      let name ← inside family items
      pure ([Piece.text "local("] ++ name ++ [Piece.text ")"])]

/-- The number of blanks at the end of a hexadecimal pattern. -/
def hexPattern (s : List Char) : Option (List Char × List Char) :=
  let digits := s.takeWhile Text.isHexDigit
  let marks := s.drop digits.length
  if marks.all (· == '?') && digits.length + marks.length ≤ 6 &&
      digits.length + marks.length > 0 then
    some (digits, marks)
  else none

/-- The first and the last code point of a range, in the notation after `U+`. -/
def codePoints? (s : List Char) : Option (Nat × Nat) :=
  let low := s.takeWhile (· != '-')
  match s.drop low.length with
  | [] => do
      let (digits, marks) ← hexPattern low
      let fill (c : Char) : Nat := Text.hexNumber (digits ++ marks.map fun _ => c)
      return (fill '0', fill 'F')
  | _ :: high => do
      let (a, marks) ← hexPattern low
      let (b, marks') ← hexPattern high
      if marks.isEmpty && marks'.isEmpty then return (Text.hexNumber a, Text.hexNumber b)
      else none

def upperHex (n : Nat) : String :=
  String.ofList ((Text.hexDigits n).map Char.toUpper)

/-- The number of hexadecimal places in which a range takes all digits, at most `limit`. -/
def freePlaces (low high : Nat) : Nat → Nat
  | 0 => 0
  | limit + 1 =>
      if low % 16 = 0 ∧ high % 16 = 15 then freePlaces (low / 16) (high / 16) limit + 1 else 0

/-- A range of code points, with question marks where that is possible. -/
def codePointsText (low high : Nat) : String :=
  let places := freePlaces low high 6
  let size := Nat.pow 16 places
  if low = high then "U+" ++ upperHex low
  else if places > 0 ∧ low / size = high / size then
    "U+" ++ (if low / size = 0 then "" else upperHex (low / size)) ++
      String.ofList (List.replicate places '?')
  else "U+" ++ upperHex low ++ "-" ++ upperHex high

def unicodeRange : Reader Printed := do
  let items ← rest
  let text := (Component.sourceList items).dropWhile Lexer.isSpace
  let text := (text.reverse.dropWhile Lexer.isSpace).reverse
  match text with
  | u :: '+' :: s =>
      if u = 'u' ∨ u = 'U' then do
        let (low, high) ← ofOption (codePoints? s)
        return codePointsText low high
      else fail
  | _ => fail

def fontDescriptors : List (String × Reader Printed) := [
  ("src", commaList fontSource),
  ("font-family", family),
  ("font-weight", pair fontWeight),
  ("font-style", fontSlope),
  ("font-stretch", pair fontWidth),
  ("unicode-range", commaList unicodeRange)]

def paletteDescriptors : List (String × Reader Printed) := [
  ("font-family", family),
  ("base-palette", firstOf [words ["light", "dark"], integerText]),
  ("override-colors", commaList do
    let i ← integerText
    let c ← colorText
    pure (Printed.joinWith " " [i, c]))]

def transitionDescriptors : List (String × Reader Printed) := [
  ("navigation", words ["auto", "none"]),
  ("types", firstOf [words ["none"], spaceList customIdentText])]

/-! ## Registered properties -/

def grammarValue (name : String) : Option (Reader Printed) :=
  match name with
  | "<length>" => some lengthText
  | "<number>" => some numberText
  | "<percentage>" => some (measureText percentage)
  | "<length-percentage>" => some lengthPercentageText
  | "<color>" => some colorText
  | "<url>" | "<image>" => some urlPiece
  | "<integer>" => some integerText
  | "<angle>" => some (measureText angle)
  | "<time>" => some (measureText time)
  | "<resolution>" => some (measureText resolution)
  | "<custom-ident>" => some customIdentText
  | "<transform-function>" | "<transform-list>" => some do
      ofOption (verbatim? .compact (← rest))
  | _ => if name.toList.head? = some '<' then none else some (words [Text.lower name])

/-- A component of a grammar without its multiplier, and the reader of its values. -/
def grammarPart? (text : String) : Option (Reader Printed) :=
  let chars := text.toList
  match chars.getLast? with
  | some '+' => (grammarValue (String.ofList chars.dropLast)).map spaceList
  | some '#' => (grammarValue (String.ofList chars.dropLast)).map commaList
  | some _ => grammarValue text
  | none => none

def grammar? (text : String) : Option (String × Reader Printed) :=
  let parts := (text.splitOn "|").map Text.trimString
  if parts = ["*"] then some ("*", do ofOption (verbatim? .compact (← rest)))
  else do
    let readers ← parts.mapM grammarPart?
    return (String.intercalate "|" parts, firstOf (readers.map fun r => do
      let p ← r
      expectEnd
      pure p))

structure Registration where
  grammar : Option String
  inherits : Option String
  initial : Option (List Component)

def registrationPart (r : Registration) (part : Statement) : Option Registration := do
  let (name, value) ← statement? (do
    let name ← keyword
    colon
    pure (name, ← rest)) part
  match name with
  | "syntax" => return { r with grammar := some (← all? string value) }
  | "inherits" => return { r with inherits := some (← all? (oneOf ["true", "false"]) value) }
  | "initial-value" => return { r with initial := some value }
  | _ => none

def registration? (items : List Component) : Option Printed := do
  let r ← (statements items).foldlM registrationPart ⟨none, none, none⟩
  let (grammar, values) ← grammar? (← r.grammar)
  let inherits ← r.inherits
  let initial ← match r.initial with
    | some value => do
        let p ← all? values value
        pure (.text ";initial-value:" :: p)
    | none => if grammar = "*" then pure [] else none
  return .text ("\x7bsyntax:" ++ stringText grammar ++ ";inherits:" ++ inherits) :: initial ++
    [.text "\x7d"]

/-! ## Values of font features -/

def featureKinds : List String :=
  ["stylistic", "historical-forms", "styleset", "character-variant", "swash", "ornaments",
    "annotation"]

/-- A named list of numbers. -/
def featureValueSet : Reader String := do
  let name ← ident
  colon
  let numbers ← many integer
  if numbers.isEmpty then fail
  pure (identText name ++ ":" ++ String.intercalate " " (numbers.map toString))

def featureBlock : Statement → Option (String × List String)
  | .other _ => none
  | .atRule r => do
      let kind := Text.lower r.name
      let sets ← (statements (← r.block)).mapM (statement? featureValueSet)
      if featureKinds.contains kind && (skipBlanks r.head).isEmpty then return (kind, sets)
      else none

/-- One more block, which joins an earlier one of its kind. -/
def joinBlock (blocks : List (String × List String)) (b : String × List String) :
    List (String × List String) :=
  if blocks.any fun a => a.1 == b.1 then
    blocks.map fun a => if a.1 == b.1 then (a.1, a.2 ++ b.2) else a
  else blocks ++ [b]

def featureValues? (items : List Component) : Option Printed := do
  let blocks ← (statements items).mapM featureBlock
  let text := (blocks.foldl joinBlock []).map fun (kind, sets) =>
    "@" ++ kind ++ "\x7b" ++ String.intercalate ";" sets ++ "\x7d"
  return Printed.ofText ("\x7b" ++ String.join text ++ "\x7d")

end Reader

end Css

end StylePrune
