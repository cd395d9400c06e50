import StylePrune.Css.Token
import StylePrune.Text.Scalar

/-!
# Reading tokens of a stylesheet

Each reader gives what it read together with the number of characters it took, so that the
text of a token can be cut from the stylesheet.
-/

namespace StylePrune

namespace Css

open Text

namespace Lexer

def isNewline (c : Char) : Bool :=
  c == '\n' || c == '\r' || c == '\x0c'

def isSpace (c : Char) : Bool :=
  c == ' ' || c == '\t' || isNewline c

def isNameStart (c : Char) : Bool :=
  isAsciiLetter c || c == '_' || c.toNat == 0 || !isAscii c

def isNamePart (c : Char) : Bool :=
  isNameStart c || c.isDigit || c == '-'

/-- NUL stands for the replacement character. -/
def visible (c : Char) : Char :=
  if c.toNat = 0 then replacement else c

/-- The text does not start with a line end, so that a backslash before it is an escape. -/
def escapes : List Char → Bool
  | c :: _ => !isNewline c
  | [] => true

def startsName : List Char → Bool
  | '-' :: c :: rest => isNameStart c || c == '-' || (c == '\\' && escapes rest)
  | '\\' :: rest => escapes rest
  | c :: _ => isNameStart c
  | [] => false

/-- The number of characters of a blank after an escape. -/
def blankLength : List Char → Nat
  | '\r' :: '\n' :: _ => 2
  | c :: _ => if isSpace c then 1 else 0
  | [] => 0

/-- The character with this code point; there is none for zero. -/
def charOf (n : Nat) : Char :=
  if n = 0 then replacement else scalarOrReplacement n

/-- The character of the escape after a backslash, and its length. -/
def escape : List Char → Char × Nat
  | [] => (replacement, 0)
  | c :: rest =>
      let digits := ((c :: rest).take 6).takeWhile isHexDigit
      if digits.isEmpty then (visible c, 1)
      else
        (charOf (hexNumber digits),
          digits.length + blankLength ((c :: rest).drop digits.length))

/-- The name here after `skip` characters, and the length of both. -/
def nameAfter (skip : Nat) : List Char → List Char × Nat
  | [] => ([], 0)
  | c :: rest =>
      match skip with
      | skip + 1 =>
          let r := nameAfter skip rest
          (r.1, r.2 + 1)
      | 0 =>
          if isNamePart c then
            let r := nameAfter 0 rest
            (visible c :: r.1, r.2 + 1)
          else if c = '\\' ∧ escapes rest then
            let e := escape rest
            let r := nameAfter e.2 rest
            (e.1 :: r.1, r.2 + 1)
          else ([], 0)

def name (s : List Char) : String × Nat :=
  let r := nameAfter 0 s
  (String.ofList r.1, r.2)

/-- What is left of a string, where `quote` ends it; `none` if a line ends inside it. -/
def stringAfter (quote : Char) (skip : Nat) : List Char → Option (List Char) × Nat
  | [] => (some [], 0)
  | c :: rest =>
      match skip with
      | skip + 1 =>
          let r := stringAfter quote skip rest
          (r.1, r.2 + 1)
      | 0 =>
          if c = quote then (some [], 1)
          else if isNewline c then (none, 0)
          else if c = '\\' then
            if rest.isEmpty then (some [], 1)
            else if escapes rest then
              let e := escape rest
              let r := stringAfter quote e.2 rest
              (r.1.map (e.1 :: ·), r.2 + 1)
            else
              let r := stringAfter quote (blankLength rest) rest
              (r.1, r.2 + 1)
          else
            let r := stringAfter quote 0 rest
            (r.1.map (visible c :: ·), r.2 + 1)

/-- The length of a reference that cannot be read, up to its closing bracket. -/
def badUrlLength (skip : Nat) : List Char → Nat
  | [] => 0
  | c :: rest =>
      match skip with
      | skip + 1 => badUrlLength skip rest + 1
      | 0 =>
          if c = ')' then 1
          else if c = '\\' ∧ (rest.head? = some ')' ∨ rest.head? = some '\\') then
            badUrlLength 1 rest + 1
          else badUrlLength 0 rest + 1

def isBadInUrl (c : Char) : Bool :=
  let n := c.toNat
  c == '"' || c == '\'' || c == '(' || (1 ≤ n && n ≤ 8) || n == 0xB || (0xE ≤ n && n ≤ 0x1F) ||
    n == 0x7F

def urlAfter (skip : Nat) : List Char → Option (List Char) × Nat
  | [] => (some [], 0)
  | c :: rest =>
      match skip with
      | skip + 1 =>
          let r := urlAfter skip rest
          (r.1, r.2 + 1)
      | 0 =>
          if c = ')' then (some [], 1)
          else if isSpace c then
            let blanks := rest.takeWhile isSpace
            match rest.drop blanks.length with
            | [] => (some [], blanks.length + 1)
            | ')' :: _ => (some [], blanks.length + 2)
            | s => (none, badUrlLength 0 s + blanks.length + 1)
          else if isBadInUrl c then (none, badUrlLength 0 rest + 1)
          else if c = '\\' then
            if escapes rest then
              let e := escape rest
              let r := urlAfter e.2 rest
              (r.1.map (e.1 :: ·), r.2 + 1)
            else (none, badUrlLength 0 rest + 1)
          else
            let r := urlAfter 0 rest
            (r.1.map (visible c :: ·), r.2 + 1)

/-- What follows `url(`: a reference, or a function with a string. -/
def urlOrFunction (nameText : String) (s : List Char) : Token × Nat :=
  let blanks := (s.takeWhile isSpace).length
  match s.drop blanks with
  | '"' :: _ => (.function nameText, 0)
  | '\'' :: _ => (.function nameText, 0)
  | rest =>
      match urlAfter 0 rest with
      | (some chars, n) => (.url (String.ofList chars), blanks + n)
      | (none, n) => (.badUrl, blanks + n)

def nameLike (s : List Char) : Token × Nat :=
  let (text, n) := name s
  match s.drop n with
  | '(' :: rest =>
      if lower text = "url" then
        let r := urlOrFunction text rest
        (r.1, r.2 + n + 1)
      else (.function text, n + 1)
  | _ => (.ident text, n)

def digits (s : List Char) : List Char :=
  s.takeWhile Char.isDigit

def startsDigit : List Char → Bool
  | c :: _ => c.isDigit
  | [] => false

def fraction : List Char → List Char
  | '.' :: rest => digits rest
  | _ => []

def exponent : List Char → Int × Nat
  | e :: '-' :: rest =>
      if (e = 'e' ∨ e = 'E') ∧ startsDigit rest then
        (-(decimalNumber (digits rest) : Int), (digits rest).length + 2)
      else (0, 0)
  | e :: '+' :: rest =>
      if (e = 'e' ∨ e = 'E') ∧ startsDigit rest then
        (decimalNumber (digits rest), (digits rest).length + 2)
      else (0, 0)
  | e :: rest =>
      if (e = 'e' ∨ e = 'E') ∧ startsDigit rest then
        (decimalNumber (digits rest), (digits rest).length + 1)
      else (0, 0)
  | [] => (0, 0)

def unsigned (s : List Char) : Rat × Bool × Nat :=
  let whole := digits s
  let s := s.drop whole.length
  let part := fraction s
  let partLength := if part.isEmpty then 0 else part.length + 1
  let (e, n) := exponent (s.drop partLength)
  (Number.scaled (decimalNumber (whole ++ part)) (e - part.length), partLength + n == 0,
    whole.length + partLength + n)

def numeric : List Char → Numeric × Nat
  | '-' :: rest =>
      let (value, isInteger, n) := unsigned rest
      (⟨-value, isInteger, true⟩, n + 1)
  | '+' :: rest =>
      let (value, isInteger, n) := unsigned rest
      (⟨value, isInteger, true⟩, n + 1)
  | s =>
      let (value, isInteger, n) := unsigned s
      (⟨value, isInteger, false⟩, n)

def startsNumber : List Char → Bool
  | '+' :: '.' :: rest => startsDigit rest
  | '-' :: '.' :: rest => startsDigit rest
  | '+' :: rest => startsDigit rest
  | '-' :: rest => startsDigit rest
  | '.' :: rest => startsDigit rest
  | s => startsDigit s

/-- A number, a percentage or a dimension. -/
def numberLike (s : List Char) : Token × Nat :=
  let (value, n) := numeric s
  match s.drop n with
  | '%' :: _ => (.percentage value, n + 1)
  | rest =>
      if startsName rest then
        let (unit, k) := name rest
        (.dimension value unit, n + k)
      else (.number value, n)

/-- The length of a comment after its first two characters. -/
def commentLength : List Char → Nat
  | [] => 0
  | '*' :: '/' :: _ => 2
  | _ :: rest => commentLength rest + 1

def continuesHash : List Char → Bool
  | c :: _ => c.isDigit || c == '-'
  | [] => false

def isMatchStart (c : Char) : Bool :=
  c == '~' || c == '|' || c == '^' || c == '$' || c == '*'

def bracket? : Char → Option Token
  | '(' => some (.opening .round)
  | ')' => some (.closing .round)
  | '[' => some (.opening .square)
  | ']' => some (.closing .square)
  | '\x7b' => some (.opening .curly)
  | '\x7d' => some (.closing .curly)
  | ':' => some .colon
  | ';' => some .semicolon
  | ',' => some .comma
  | _ => none

/-- The token that starts with a character, and its length. -/
def token (c : Char) (rest : List Char) : Token × Nat :=
  if isSpace c then (.space, (rest.takeWhile isSpace).length + 1)
  else if c = '"' ∨ c = '\'' then
    match stringAfter c 0 rest with
    | (some chars, n) => (.string (String.ofList chars), n + 1)
    | (none, n) => (.badString, n + 1)
  else if c = '#' then
    if startsName rest then
      let (text, n) := name rest
      (.hash text true, n + 1)
    else if continuesHash rest then
      let (text, n) := name rest
      (.hash text false, n + 1)
    else (.delim c, 1)
  else if c = '@' then
    if startsName rest then
      let (text, n) := name rest
      (.atKeyword text, n + 1)
    else (.delim c, 1)
  else if c = '/' ∧ rest.head? = some '*' then (.comment, commentLength (rest.drop 1) + 2)
  else if c = '<' ∧ ['!', '-', '-'].isPrefixOf rest then (.commentOpen, 4)
  else if startsNumber (c :: rest) then numberLike (c :: rest)
  else if c = '-' ∧ ['-', '>'].isPrefixOf rest then (.commentClose, 3)
  else if startsName (c :: rest) then nameLike (c :: rest)
  else if isMatchStart c ∧ rest.head? = some '=' then (.matching c, 2)
  else
    match bracket? c with
    | some t => (t, 1)
    | none => (.delim c, 1)

def tokensWithin : Nat → List Char → List Lexeme
  | 0, _ => []
  | _ + 1, [] => []
  | fuel + 1, c :: rest =>
      let (t, n) := token c rest
      ⟨t, (c :: rest).take n⟩ :: tokensWithin fuel ((c :: rest).drop n)

def tokens (s : List Char) : List Lexeme :=
  tokensWithin s.length s

end Lexer

end Css

end StylePrune
