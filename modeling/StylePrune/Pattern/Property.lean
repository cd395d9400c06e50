import StylePrune.Pattern.CharSet

/-!
# Names of properties

The sets that a pattern can name: classes of ASCII characters and Unicode properties.
-/

namespace StylePrune

namespace Pattern

open Text

namespace CharSet

def asciiDigit : CharSet := range '0' '9'
def asciiLower : CharSet := range 'a' 'z'
def asciiUpper : CharSet := range 'A' 'Z'
def asciiAlpha : CharSet := union asciiLower asciiUpper
def asciiAlnum : CharSet := union asciiAlpha asciiDigit
def asciiWord : CharSet := union asciiAlnum (single '_')
def asciiBlank : CharSet := ofList ['\t', '\n', '\x0b', '\x0c', '\r', ' ']

end CharSet

open CharSet

/-- The class that is written `[:name:]`. -/
def asciiClass? (name : String) : Option CharSet :=
  match name with
  | "alnum" => some asciiAlnum
  | "alpha" => some asciiAlpha
  | "ascii" => some (range '\x00' '\x7f')
  | "blank" => some (ofList ['\t', ' '])
  | "cntrl" => some (union (range '\x00' '\x1f') (single '\x7f'))
  | "digit" => some asciiDigit
  | "graph" => some (range '!' '~')
  | "lower" => some asciiLower
  | "print" => some (range ' ' '~')
  | "punct" =>
      some (ofRanges [('!', '/'), (':', '@'), ('[', '\x60'), ('\x7b', '~')])
  | "space" => some asciiBlank
  | "upper" => some asciiUpper
  | "word" => some asciiWord
  | "xdigit" => some (ofRanges [('0', '9'), ('a', 'f'), ('A', 'F')])
  | _ => none

def categories (cs : List Category) : CharSet :=
  cs.foldr (fun c s => union (property (.category c)) s) CharSet.empty

def letters : CharSet :=
  categories [.uppercaseLetter, .lowercaseLetter, .titlecaseLetter, .modifierLetter,
    .otherLetter]

def marks : CharSet :=
  categories [.nonspacingMark, .spacingMark, .enclosingMark]

def numbers : CharSet :=
  categories [.decimalNumber, .letterNumber, .otherNumber]

def punctuation : CharSet :=
  categories [.connectorPunctuation, .dashPunctuation, .openPunctuation, .closePunctuation,
    .initialPunctuation, .finalPunctuation, .otherPunctuation]

def symbols : CharSet :=
  categories [.mathSymbol, .currencySymbol, .modifierSymbol, .otherSymbol]

def separators : CharSet :=
  categories [.spaceSeparator, .lineSeparator, .paragraphSeparator]

def unassigned : CharSet :=
  compl (categories Category.all)

/-- The set that a name of the property `General_Category` stands for. -/
def categoryNamed? (name : String) : Option CharSet :=
  match name with
  | "any" => some CharSet.any
  | "assigned" => some (compl unassigned)
  | "ascii" => some (range '\x00' '\x7f')
  | "l" | "letter" => some letters
  | "lc" | "casedletter" =>
      some (categories [.uppercaseLetter, .lowercaseLetter, .titlecaseLetter])
  | "lu" | "uppercaseletter" => some (categories [.uppercaseLetter])
  | "ll" | "lowercaseletter" => some (categories [.lowercaseLetter])
  | "lt" | "titlecaseletter" => some (categories [.titlecaseLetter])
  | "lm" | "modifierletter" => some (categories [.modifierLetter])
  | "lo" | "otherletter" => some (categories [.otherLetter])
  | "m" | "mark" | "combiningmark" => some marks
  | "mn" | "nonspacingmark" => some (categories [.nonspacingMark])
  | "mc" | "spacingmark" => some (categories [.spacingMark])
  | "me" | "enclosingmark" => some (categories [.enclosingMark])
  | "n" | "number" => some numbers
  | "nd" | "decimalnumber" | "digit" => some (categories [.decimalNumber])
  | "nl" | "letternumber" => some (categories [.letterNumber])
  | "no" | "othernumber" => some (categories [.otherNumber])
  | "p" | "punctuation" | "punct" => some punctuation
  | "pc" | "connectorpunctuation" => some (categories [.connectorPunctuation])
  | "pd" | "dashpunctuation" => some (categories [.dashPunctuation])
  | "ps" | "openpunctuation" => some (categories [.openPunctuation])
  | "pe" | "closepunctuation" => some (categories [.closePunctuation])
  | "pi" | "initialpunctuation" => some (categories [.initialPunctuation])
  | "pf" | "finalpunctuation" => some (categories [.finalPunctuation])
  | "po" | "otherpunctuation" => some (categories [.otherPunctuation])
  | "s" | "symbol" => some symbols
  | "sm" | "mathsymbol" => some (categories [.mathSymbol])
  | "sc" | "currencysymbol" => some (categories [.currencySymbol])
  | "sk" | "modifiersymbol" => some (categories [.modifierSymbol])
  | "so" | "othersymbol" => some (categories [.otherSymbol])
  | "z" | "separator" => some separators
  | "zs" | "spaceseparator" => some (categories [.spaceSeparator])
  | "zl" | "lineseparator" => some (categories [.lineSeparator])
  | "zp" | "paragraphseparator" => some (categories [.paragraphSeparator])
  | "c" | "other" =>
      some (union unassigned (categories [.control, .format, .surrogate, .privateUse]))
  | "cc" | "control" | "cntrl" => some (categories [.control])
  | "cf" | "format" => some (categories [.format])
  | "cs" | "surrogate" => some (categories [.surrogate])
  | "co" | "privateuse" => some (categories [.privateUse])
  | "cn" | "unassigned" => some unassigned
  | _ => none

/-- The set that a name of the property `Script` stands for. -/
def scriptNamed? (name : String) : Option CharSet :=
  (Script.all.find? fun s => s.names.contains name).map fun s => property (.script s)

/-- The set that the name of a property with two values stands for. -/
def binaryNamed? (name : String) : Option CharSet :=
  match name with
  | "alphabetic" | "alpha" => some (property .alphabetic)
  | "whitespace" | "wspace" | "space" => some (property .blank)
  | "lowercase" | "lower" => some (categories [.lowercaseLetter])
  | "uppercase" | "upper" => some (categories [.uppercaseLetter])
  | "asciihexdigit" | "ahex" => some (ofRanges [('0', '9'), ('a', 'f'), ('A', 'F')])
  | _ => none

/-- A name without case, blanks, hyphens, underscores and the word `is` in front. -/
def looseName (name : List Char) : String :=
  let plain := (name.filter fun c => c != ' ' && c != '_' && c != '-').map Char.toLower
  match plain with
  | ['i', 's', 'c'] => "isc"
  | 'i' :: 's' :: rest => String.ofList rest
  | plain => String.ofList plain

/-- The set that `\p` with a name in braces stands for. -/
def propertyNamed? (name : List Char) : Option CharSet :=
  let key := looseName name
  let exact := if ["cf", "sc", "lc"].contains key then none else binaryNamed? key
  exact <|> categoryNamed? key <|> scriptNamed? key

def propertyValue? (property value : List Char) : Option CharSet :=
  match looseName property with
  | "generalcategory" | "gc" => categoryNamed? (looseName value)
  | "script" | "sc" | "scriptextensions" | "scx" => scriptNamed? (looseName value)
  | _ => none

def splitAtSeparator? (separator : List Char) : List Char → Option (List Char × List Char)
  | [] => none
  | c :: rest =>
      if separator.isPrefixOf (c :: rest) then some ([], (c :: rest).drop separator.length)
      else (splitAtSeparator? separator rest).map fun (a, b) => (c :: a, b)

def propertyText? (text : List Char) : Option CharSet :=
  match splitAtSeparator? ['!', '='] text with
  | some (name, value) => (propertyValue? name value).map compl
  | none =>
      match splitAtSeparator? [':'] text <|> splitAtSeparator? ['='] text with
      | some (name, value) => propertyValue? name value
      | none => propertyNamed? text

end Pattern

end StylePrune
