import StylePrune.Html.Entity

/-!
# Character references

The characters that a reference such as `&amp;` or `&#65;` stands for, in text and in the
values of attributes.
-/

namespace StylePrune

namespace Html

open Text

/-- The characters that the numbers from 128 to 159 stand for, in order. -/
def windowsPoints : List Nat := [
  0x20AC, 0x81, 0x201A, 0x0192, 0x201E, 0x2026, 0x2020, 0x2021,
  0x02C6, 0x2030, 0x0160, 0x2039, 0x0152, 0x8D, 0x017D, 0x8F,
  0x90, 0x2018, 0x2019, 0x201C, 0x201D, 0x2022, 0x2013, 0x2014,
  0x02DC, 0x2122, 0x0161, 0x203A, 0x0153, 0x9D, 0x017E, 0x0178]

def numericChar (n : Nat) : Char :=
  if n = 0 then replacement
  else if 0x80 ≤ n ∧ n ≤ 0x9F then scalarOrReplacement (windowsPoints.getD (n - 0x80) n)
  else scalarOrReplacement n

def dropSemicolon : List Char → List Char
  | ';' :: rest => rest
  | s => s

/-- The character of a numeric reference, where `s` is the text after `&#`. -/
def numericReference? (s : List Char) : Option (List Char × List Char) :=
  let read (isDigit : Char → Bool) (number : List Char → Nat) (s : List Char) :
      Option (List Char × List Char) :=
    let digits := s.takeWhile isDigit
    if digits.isEmpty then none
    else some ([numericChar (number digits)], dropSemicolon (s.dropWhile isDigit))
  match s with
  | 'x' :: rest => read isHexDigit hexNumber rest
  | 'X' :: rest => read isHexDigit hexNumber rest
  | s => read Char.isDigit decimalNumber s

/-- The longest start of `run` that names a character without a semicolon. -/
def longestBare? (run : List Char) : Nat → Option (Nat × List Char)
  | 0 => none
  | n + 1 =>
      match bareEntity? (String.ofList (run.take (n + 1))) with
      | some chars => some (n + 1, chars)
      | none => longestBare? run n

/-- A letter, a digit or an equals sign, before which an attribute keeps a bare name. -/
def keepsBareName (s : List Char) : Bool :=
  (s.head?.map fun c => isAsciiAlphanumeric c || c == '=').getD false

/-- The characters of a named reference, where `s` is the text after `&`. -/
def namedReference? (inAttribute : Bool) (s : List Char) : Option (List Char × List Char) :=
  let run := s.takeWhile isAsciiAlphanumeric
  let whole := match s.drop run.length with
    | ';' :: rest => (entity? (String.ofList run)).map fun chars => (chars, rest)
    | _ => none
  match whole with
  | some r => some r
  | none =>
      match longestBare? run run.length with
      | none => none
      | some (n, chars) =>
          if inAttribute && keepsBareName (s.drop n) then none else some (chars, s.drop n)

/-- The characters of a reference, where `s` is the text after `&`, and the text after it. -/
def reference? (inAttribute : Bool) (s : List Char) : Option (List Char × List Char) :=
  match s with
  | '#' :: rest => numericReference? rest
  | s => namedReference? inAttribute s

def decodeAttribute (fuel : Nat) (s : List Char) : List Char :=
  match fuel, s with
  | 0, s => s
  | _ + 1, [] => []
  | fuel + 1, '&' :: rest =>
      match reference? true rest with
      | some (chars, rest) => chars ++ decodeAttribute fuel rest
      | none => '&' :: decodeAttribute fuel rest
  | fuel + 1, c :: rest => c :: decodeAttribute fuel rest

def attributeValue (s : List Char) : String :=
  String.ofList (decodeAttribute s.length s)

end Html

end StylePrune
