import StylePrune.Text.Blank
import StylePrune.Text.Scalar

/-!
# Names in selectors

The characters of identifiers, the reader that resolves escapes in a name, and the
serialization that writes any name so that it can be read back.
-/

namespace StylePrune

namespace Selector

open Text

/-- ASCII letters and digits, `_`, `-` and every character outside ASCII. -/
def isNameChar (c : Char) : Bool :=
  isAsciiAlphanumeric c || c == '_' || c == '-' || !isAscii c

def dropOneBlank : List Char → List Char
  | [] => []
  | c :: rest => if isBlank c then rest else c :: rest

theorem length_dropOneBlank_le (s : List Char) : (dropOneBlank s).length ≤ s.length := by
  cases s with
  | nil => simp [dropOneBlank]
  | cons c rest =>
      by_cases h : isBlank c <;> simp [dropOneBlank, h]

/-- The hexadecimal digits that an escape may use: at most six. -/
def escapeDigits (s : List Char) : List Char :=
  (s.take 6).takeWhile isHexDigit

/--
The character that an escape stands for and the text after it, where `s` is the text
after the backslash.  A hexadecimal escape takes one blank after its digits.
-/
def readEscape? : List Char → Option (Char × List Char)
  | [] => none
  | c :: rest =>
      match escapeDigits (c :: rest) with
      | [] => some (c, rest)
      | d :: digits =>
          some (scalarOrReplacement (hexNumber (d :: digits)),
            dropOneBlank (rest.drop digits.length))

theorem length_readEscape?_lt {s rest : List Char} {c : Char}
    (h : readEscape? s = some (c, rest)) : rest.length < s.length := by
  cases s with
  | nil => simp [readEscape?] at h
  | cons a tail =>
      simp only [readEscape?] at h
      split at h
      · cases h
        simp
      · rename_i digits _
        have hle := length_dropOneBlank_le (tail.drop digits.length)
        simp only [List.length_drop] at hle
        cases h
        simp only [List.length_cons]
        omega

/-- The name at the start of a text, with its escapes resolved, and the text after it. -/
def readName (s : List Char) : List Char × List Char :=
  match s with
  | [] => ([], [])
  | c :: rest =>
      if isNameChar c then
        let r := readName rest
        (c :: r.1, r.2)
      else if c = '\\' then
        match _h : readEscape? rest with
        | none => ([], c :: rest)
        | some (x, tail) =>
            let r := readName tail
            (x :: r.1, r.2)
      else ([], c :: rest)
termination_by s.length
decreasing_by
  · simp
  · have := length_readEscape?_lt _h
    simp
    omega

theorem length_readName_le (s : List Char) : (readName s).2.length ≤ s.length := by
  fun_induction readName s with
  | case1 => simp
  | case2 c rest _ r ih =>
      simp only [List.length_cons, r]
      omega
  | case3 => simp
  | case4 rest x tail hx r _ ih =>
      have := length_readEscape?_lt hx
      simp only [List.length_cons, r]
      omega
  | case5 => simp

theorem length_readName_lt {s : List Char} (h : (readName s).1 ≠ []) :
    (readName s).2.length < s.length := by
  fun_induction readName s with
  | case1 => simp at h
  | case2 c rest _ r ih =>
      have := length_readName_le rest
      simp only [List.length_cons, r]
      omega
  | case3 => simp at h
  | case4 rest x tail hx r _ ih =>
      have h1 := length_readEscape?_lt hx
      have h2 := length_readName_le tail
      simp only [List.length_cons, r]
      omega
  | case5 => simp at h

def hexEscape (c : Char) : List Char :=
  '\\' :: hexDigits c.toNat ++ [' ']

def serializeChar (c : Char) : List Char :=
  if isNameChar c then [c]
  else if c.toNat = 0 then [replacement]
  else if c.toNat < 0x20 ∨ c.toNat = 0x7F then hexEscape c
  else ['\\', c]

def serializeChars (s : List Char) : List Char :=
  s.flatMap serializeChar

/-- The rest of a name that may not start with a digit. -/
def serializeLead : List Char → List Char
  | [] => []
  | c :: rest =>
      if c.isDigit then hexEscape c ++ serializeChars rest
      else serializeChars (c :: rest)

def serializeName : List Char → List Char
  | '-' :: '-' :: rest => '-' :: '-' :: serializeChars rest
  | ['-'] => ['\\', '-']
  | '-' :: rest => '-' :: serializeLead rest
  | s => serializeLead s

end Selector

end StylePrune
