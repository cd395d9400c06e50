import StylePrune.Selector.Descriptor

/-!
# The passes by position

The passes as loops that hold a text in an array, read it by position, cut it at computed
positions, count open brackets with an unsigned number and read hexadecimal digits into 32 bits.
Nothing is taken for granted: a read or a cut outside the text, a count below zero, a number that
is too large and a loop that uses up its rounds are traps.
-/

namespace StylePrune

namespace Selector

open Text

namespace Cursor

/-- What a program can trip over. -/
inductive Trap
  /-- A read or a cut outside the text. -/
  | outOfRange
  /-- A count below zero. -/
  | belowZero
  /-- A number that does not fit into its bits. -/
  | overflow
  /-- A loop that goes on after its last round. -/
  | outOfRounds
  deriving DecidableEq, Repr

abbrev Run := Except Trap

section Operations

variable (s : Array Char)

def charAt (i : Nat) : Run Char :=
  match s[i]? with
  | some c => pure c
  | none => throw .outOfRange

def cut (i j : Nat) : Run (List Char) :=
  if i ≤ j ∧ j ≤ s.size then pure (s.extract i j).toList else throw .outOfRange

def oneLess : Nat → Run Nat
  | 0 => throw .belowZero
  | n + 1 => pure n

def pushDigit (n : UInt32) (digit : Char) : Run UInt32 :=
  if 16 * n.toNat + hexValue digit < UInt32.size then
    pure (UInt32.ofNat (16 * n.toNat + hexValue digit))
  else throw .overflow

def hexWord (digits : List Char) : Run UInt32 :=
  digits.foldlM pushDigit 0

/-- The backslash at the position `i` and the character it takes with it. -/
def escapeAt (i : Nat) : List Char :=
  '\\' :: s[i + 1]?.toList

def skipColon (i : Nat) : Nat :=
  if s[i]? = some ':' then i + 1 else i

def skipBlank (i : Nat) : Nat :=
  if s[i]?.any isBlank then i + 1 else i

end Operations

/-! ## Loops inside the passes -/

section Loops

variable (s : Array Char)

/--
The position where the number of open brackets comes down to zero, from the position `i`, with
`depth` brackets open and inside a string of the quote `quote`.
-/
def closing? (opening closing : Char) (rounds : Nat) (quote : Option Char) (depth i : Nat) :
    Run (Option Nat) := do
  match rounds with
  | 0 => throw .outOfRounds
  | rounds + 1 =>
      if i < s.size then
        let c ← charAt s i
        match quote with
        | some q =>
            if c = '\\' then closing? opening closing rounds (some q) depth (i + 2)
            else closing? opening closing rounds (if c = q then none else some q) depth (i + 1)
        | none =>
            if c = '\\' then closing? opening closing rounds none depth (i + 2)
            else if isQuote c then closing? opening closing rounds (some c) depth (i + 1)
            else if c = opening then closing? opening closing rounds none (depth + 1) (i + 1)
            else if c = closing then
              let depth ← oneLess depth
              if depth = 0 then return some i
              else closing? opening closing rounds none depth (i + 1)
            else closing? opening closing rounds none depth (i + 1)
      else return none

/-- The position after the name characters from the position `i`. -/
def skipName (rounds i : Nat) : Run Nat := do
  match rounds with
  | 0 => throw .outOfRounds
  | rounds + 1 =>
      if i < s.size then
        if isNameChar (← charAt s i) then skipName rounds (i + 1) else return i
      else return i

/-- The name from the position `i`, behind what was read of it, and the position after it. -/
def readName (rounds : Nat) (name : List Char) (i : Nat) : Run (List Char × Nat) := do
  match rounds with
  | 0 => throw .outOfRounds
  | rounds + 1 =>
      if i < s.size then
        let c ← charAt s i
        if isNameChar c then readName rounds (name ++ [c]) (i + 1)
        else if c = '\\' ∧ i + 1 < s.size then
          let digits := escapeDigits (← cut s (i + 1) s.size)
          if digits = [] then
            let x ← charAt s (i + 1)
            readName rounds (name ++ [x]) (i + 2)
          else
            let number ← hexWord digits
            readName rounds (name ++ [scalarOrReplacement number.toNat])
              (skipBlank s (i + 1 + digits.length))
        else return (name, i)
      else return (name, i)

end Loops

/-! ## The passes -/

section Passes

-- No loop may take more rounds than the limit, those of a pass and those inside it alike.
variable (limit : Nat) (s : Array Char)

/-- The first pass from the position `i`, behind the output `out`. -/
def withoutPseudo (rounds : Nat) (out : List Char) (i : Nat) :
    Run (Except Fault (List Char)) := do
  match rounds with
  | 0 => throw .outOfRounds
  | rounds + 1 =>
      if i < s.size then
        let c ← charAt s i
        if c = '\\' then withoutPseudo rounds (out ++ escapeAt s i) (i + 2)
        else if c ≠ ':' then withoutPseudo rounds (out ++ [c]) (i + 1)
        else
          let j ← skipName s limit (skipColon s (i + 1))
          if j = skipColon s (i + 1) then withoutPseudo rounds (out ++ [c]) (i + 1)
          else if s[j]? = some '(' then
            match ← closing? s '(' ')' limit none 0 j with
            | none => return .error .unbalancedParenthesis
            | some close => withoutPseudo rounds out (close + 1)
          else withoutPseudo rounds out j
      else return .ok out

/-- The pass for attribute selectors from the position `i`, behind what it has found. -/
def takeAttributes (rounds : Nat) (names : List (List Char)) (out : List Char) (i : Nat) :
    Run (Except Fault (List (List Char) × List Char)) := do
  match rounds with
  | 0 => throw .outOfRounds
  | rounds + 1 =>
      if i < s.size then
        let c ← charAt s i
        if c = '\\' then takeAttributes rounds names (out ++ escapeAt s i) (i + 2)
        else if c ≠ '[' then takeAttributes rounds names (out ++ [c]) (i + 1)
        else
          match ← closing? s '[' ']' limit none 0 i with
          | none => return .error .unbalancedBracket
          | some close =>
              let inside ← cut s (i + 1) close
              if attrName inside = [] then return .error .namelessAttribute
              else takeAttributes rounds (names ++ [attrName inside]) out (close + 1)
      else return .ok (names, out)

def takePrefixed (sigil : Char) (rounds : Nat) (names : List (List Char)) (out : List Char)
    (i : Nat) : Run (List (List Char) × List Char) := do
  match rounds with
  | 0 => throw .outOfRounds
  | rounds + 1 =>
      if i < s.size then
        let c ← charAt s i
        if c = '\\' then takePrefixed sigil rounds names (out ++ escapeAt s i) (i + 2)
        else if c ≠ sigil then takePrefixed sigil rounds names (out ++ [c]) (i + 1)
        else
          let (name, next) ← readName s limit [] (i + 1)
          if name = [] then takePrefixed sigil rounds names (out ++ [c]) (i + 1)
          else takePrefixed sigil rounds (names ++ [name]) out next
      else return (names, out)

/-- The pass for tags from the position `i`, behind the tags and the run of characters so far. -/
def tagRuns (rounds : Nat) (tags : List (List Char)) (current : List Char) (i : Nat) :
    Run (List (List Char)) :=
  match rounds with
  | 0 => throw .outOfRounds
  | rounds + 1 =>
      match s[i]? with
      | none => pure (if current.isEmpty then tags else tags ++ [current])
      | some c =>
          if c = '\\' then tagRuns rounds tags current (i + 2)
          else if isNameChar c then tagRuns rounds tags (current ++ [c]) (i + 1)
          else if current.isEmpty then tagRuns rounds tags [] (i + 1)
          else tagRuns rounds (tags ++ [current]) [] (i + 1)

/-- The five passes, each on an array of what the one before it left. -/
def namesOf (s : List Char) : Run (Except Fault Names) := do
  match ← withoutPseudo limit s.toArray limit [] 0 with
  | .error fault => return .error fault
  | .ok plain =>
      match ← takeAttributes limit plain.toArray limit [] [] 0 with
      | .error fault => return .error fault
      | .ok (attrs, plain) =>
          let (classes, plain) ← takePrefixed limit plain.toArray '.' limit [] [] 0
          let (ids, plain) ← takePrefixed limit plain.toArray '#' limit [] [] 0
          let tags ← tagRuns plain.toArray limit [] [] 0
          return .ok { classes, ids, tags, attrs }

end Passes

end Cursor

end Selector

end StylePrune
