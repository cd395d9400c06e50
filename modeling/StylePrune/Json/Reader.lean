import StylePrune.Json.Value
import StylePrune.Text.Scalar

/-!
# Reading JSON texts

A strict reader: one value, blanks around it, no comments and no trailing commas.
Nesting is bounded by the length of the text.
-/

namespace StylePrune

namespace Json

open Text

/-- Space, tab, line feed and carriage return. -/
def isSpace (c : Char) : Bool :=
  c == ' ' || c == '\t' || c == '\n' || c == '\r'

def skipSpace (s : List Char) : List Char :=
  s.dropWhile isSpace

def afterWord? (word s : List Char) : Option (List Char) :=
  if word.isPrefixOf s then some (s.drop word.length) else none

def fourDigits? : List Char → Option (Nat × List Char)
  | a :: b :: c :: d :: rest =>
      if [a, b, c, d].all isHexDigit then some (hexNumber [a, b, c, d], rest) else none
  | _ => none

/-- The character that a letter after a backslash stands for. -/
def simpleEscape? : Char → Option Char
  | '"' => some '"'
  | '\\' => some '\\'
  | '/' => some '/'
  | 'b' => some '\x08'
  | 'f' => some '\x0c'
  | 'n' => some '\n'
  | 'r' => some '\r'
  | 't' => some '\t'
  | _ => none

def isHighSurrogate (n : Nat) : Bool :=
  0xD800 ≤ n && n < 0xDC00

def isLowSurrogate (n : Nat) : Bool :=
  0xDC00 ≤ n && n < 0xE000

def unitEscape? : List Char → Option (Nat × List Char)
  | '\\' :: 'u' :: rest => fourDigits? rest
  | _ => none

/--
The rest of a string after its opening quote: its characters, or `none` in their place if a
surrogate stands alone, and the text after the closing quote.
-/
def readString (fuel : Nat) (s : List Char) : Option (Option (List Char) × List Char) :=
  match fuel with
  | 0 => none
  | fuel + 1 =>
      match s with
      | [] => none
      | '"' :: rest => some (some [], rest)
      | '\\' :: 'u' :: rest =>
          match fourDigits? rest with
          | none => none
          | some (unit, rest) =>
              match scalar? unit, unitEscape? rest with
              | some c, _ => push (some c) (readString fuel rest)
              | none, some (low, after) =>
                  if isHighSurrogate unit && isLowSurrogate low then
                    push (scalar? (0x10000 + (unit - 0xD800) * 0x400 + (low - 0xDC00)))
                      (readString fuel after)
                  else push none (readString fuel rest)
              | none, none => push none (readString fuel rest)
      | '\\' :: c :: rest =>
          match simpleEscape? c with
          | none => none
          | some x => push (some x) (readString fuel rest)
      | c :: rest =>
          if c.toNat < 0x20 then none else push (some c) (readString fuel rest)
where
  /-- One more character in front. -/
  push (c : Option Char) (r : Option (Option (List Char) × List Char)) :
      Option (Option (List Char) × List Char) :=
    r.map fun (text, rest) => ((do return (← c) :: (← text)), rest)

def digits? (s : List Char) : Option (List Char) :=
  if (s.head?.map Char.isDigit).getD false then some (s.dropWhile Char.isDigit) else none

def integerPart? : List Char → Option (List Char)
  | '0' :: rest => some rest
  | s => digits? s

def fractionPart? : List Char → Option (List Char)
  | '.' :: rest => digits? rest
  | s => some s

def exponentPart? : List Char → Option (List Char)
  | 'e' :: rest | 'E' :: rest =>
      match rest with
      | '+' :: rest | '-' :: rest => digits? rest
      | rest => digits? rest
  | s => some s

def readNumber (s : List Char) : Option (List Char) := do
  let s := match s with
    | '-' :: rest => rest
    | s => s
  exponentPart? (← fractionPart? (← integerPart? s))

mutual

def readValue (fuel : Nat) (s : List Char) : Option (Value × List Char) :=
  match fuel with
  | 0 => none
  | fuel + 1 =>
      match s with
      | '"' :: rest => (readString (rest.length + 1) rest).map fun (text, rest) =>
          (.string (text.map String.ofList), rest)
      | '[' :: rest =>
          match skipSpace rest with
          | ']' :: rest => some (.array [], rest)
          | rest => (readItems fuel rest).map fun (items, rest) => (.array items, rest)
      | '\x7b' :: rest =>
          match skipSpace rest with
          | '\x7d' :: rest => some (.object [], rest)
          | rest => (readMembers fuel rest).map fun (fields, rest) => (.object fields, rest)
      | 'n' :: _ => (afterWord? ['n', 'u', 'l', 'l'] s).map fun rest => (.null, rest)
      | 't' :: _ => (afterWord? ['t', 'r', 'u', 'e'] s).map fun rest => (.bool true, rest)
      | 'f' :: _ =>
          (afterWord? ['f', 'a', 'l', 's', 'e'] s).map fun rest => (.bool false, rest)
      | s => (readNumber s).map fun rest => (.number, rest)

def readItems (fuel : Nat) (s : List Char) : Option (List Value × List Char) :=
  match fuel with
  | 0 => none
  | fuel + 1 => do
      let (item, rest) ← readValue fuel (skipSpace s)
      match skipSpace rest with
      | ']' :: rest => return ([item], rest)
      | ',' :: rest =>
          let (items, rest) ← readItems fuel rest
          return (item :: items, rest)
      | _ => none

def readMembers (fuel : Nat) (s : List Char) : Option (List (String × Value) × List Char) :=
  match fuel with
  | 0 => none
  | fuel + 1 =>
      match skipSpace s with
      | '"' :: rest => do
          let (key, rest) ← readString (rest.length + 1) rest
          let key ← key
          match skipSpace rest with
          | ':' :: rest =>
              let (value, rest) ← readValue fuel (skipSpace rest)
              match skipSpace rest with
              | '\x7d' :: rest => return ([(String.ofList key, value)], rest)
              | ',' :: rest =>
                  let (fields, rest) ← readMembers fuel rest
                  return ((String.ofList key, value) :: fields, rest)
              | _ => none
          | _ => none
      | _ => none

end

def read? (text : String) : Option Value :=
  let s := text.toList
  match readValue (2 * s.length + 1) (skipSpace s) with
  | some (value, rest) => if (skipSpace rest).isEmpty then some value else none
  | none => none

end Json

end StylePrune
