import StylePrune.Css.Number

/-!
# Tokens of a stylesheet

The smallest units of a stylesheet, together with the text that they were read from.
-/

namespace StylePrune

namespace Css

inductive Bracket
  | round
  | square
  | curly
  deriving BEq, DecidableEq, Repr

namespace Bracket

def opening : Bracket → Char
  | round => '('
  | square => '['
  | curly => '\x7b'

def closing : Bracket → Char
  | round => ')'
  | square => ']'
  | curly => '\x7d'

end Bracket

inductive Token
  | ident (name : String)
  /-- A name after `@`. -/
  | atKeyword (name : String)
  /-- A name after `#`, which is an identifier or not. -/
  | hash (name : String) (isId : Bool)
  | string (value : String)
  /-- A reference without quotes inside `url(` and `)`. -/
  | url (value : String)
  | delim (c : Char)
  | number (n : Numeric)
  | percentage (n : Numeric)
  | dimension (n : Numeric) (unit : String)
  | space
  | comment
  | colon
  | semicolon
  | comma
  /-- The character before `=` in `~=`, `|=`, `^=`, `$=` and `*=`. -/
  | matching (c : Char)
  | commentOpen
  | commentClose
  | function (name : String)
  | opening (b : Bracket)
  | closing (b : Bracket)
  | badUrl
  | badString
  deriving DecidableEq

structure Lexeme where
  token : Token
  text : List Char

end Css

end StylePrune
