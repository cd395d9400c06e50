/-!
# Characters by number

Hexadecimal digits and the character that a code point stands for.
-/

namespace StylePrune

namespace Text

def hexValue (c : Char) : Nat :=
  if c.isDigit then c.toNat - '0'.toNat
  else if 'a' ≤ c ∧ c ≤ 'f' then c.toNat - 'a'.toNat + 10
  else c.toNat - 'A'.toNat + 10

def isHexDigit (c : Char) : Bool :=
  c.isDigit || ('a' ≤ c && c ≤ 'f') || ('A' ≤ c && c ≤ 'F')

def hexNumber (digits : List Char) : Nat :=
  digits.foldl (fun n c => 16 * n + hexValue c) 0

def decimalNumber (digits : List Char) : Nat :=
  digits.foldl (fun n c => 10 * n + (c.toNat - '0'.toNat)) 0

/-- The character with this code point, unless it is a surrogate or too large. -/
def scalar? (n : Nat) : Option Char :=
  if h : n.isValidChar then some (Char.ofNatAux n h) else none

/-- The character that stands for unreadable ones. -/
def replacement : Char :=
  '\uFFFD'

def scalarOrReplacement (n : Nat) : Char :=
  (scalar? n).getD replacement

def hexDigits (n : Nat) : List Char :=
  Nat.toDigits 16 n

def isAsciiLetter (c : Char) : Bool :=
  ('a' ≤ c && c ≤ 'z') || ('A' ≤ c && c ≤ 'Z')

def isAsciiAlphanumeric (c : Char) : Bool :=
  isAsciiLetter c || c.isDigit

def isAscii (c : Char) : Bool :=
  c.toNat < 128

/-- ASCII letters in lower case; other characters stay. -/
def lower (s : String) : String :=
  s.map Char.toLower

end Text

end StylePrune
