import StylePrune.Css.Component

/-!
# Readers

Functions that take something from the front of a list of components.  White space and
comments in front are skipped unless a reader says otherwise.
-/

namespace StylePrune

namespace Css

inductive Fault
  /-- Nothing was left to read. -/
  | ended
  | unexpected
  deriving BEq, DecidableEq, Repr

/-- Takes a value from the front of some components. -/
abbrev Reader := StateT (List Component) (Except Fault)

namespace Reader

def fail {α : Type} : Reader α :=
  fun _ => .error .unexpected

def ofOption {α : Type} : Option α → Reader α
  | some a => pure a
  | none => fail

/-- The value of a reader, or nothing taken. -/
def optional {α : Type} (r : Reader α) : Reader (Option α) := fun s =>
  match r s with
  | .ok (a, rest) => .ok (some a, rest)
  | .error _ => .ok (none, s)

def firstOf {α : Type} : List (Reader α) → Reader α
  | [] => fail
  | r :: more => fun s =>
      match r s with
      | .ok x => .ok x
      | .error _ => firstOf more s

def skipBlanks : List Component → List Component
  | [] => []
  | c :: rest => if c.isBlank then skipBlanks rest else c :: rest

def skipComments : List Component → List Component
  | [] => []
  | c :: rest => if c.isComment then skipComments rest else c :: rest

def next : Reader Component := fun s =>
  match skipBlanks s with
  | [] => .error .ended
  | c :: rest => .ok (c, rest)

/-- The next component, which may be white space. -/
def nextRaw : Reader Component := fun s =>
  match skipComments s with
  | [] => .error .ended
  | c :: rest => .ok (c, rest)

def atEnd : Reader Bool := fun s =>
  .ok ((skipBlanks s).isEmpty, s)

def expectEnd : Reader Unit := do
  if ← atEnd then pure () else fail

def all {α : Type} (r : Reader α) (items : List Component) : Except Fault α :=
  match r items with
  | .error e => .error e
  | .ok (a, rest) => if (skipBlanks rest).isEmpty then .ok a else .error .unexpected

def all? {α : Type} (r : Reader α) (items : List Component) : Option α :=
  (all r items).toOption

/-- Reads the content of a block or of a function. -/
def inside {α : Type} (r : Reader α) (items : List Component) : Reader α := fun s =>
  match all r items with
  | .ok a => .ok (a, s)
  | .error e => .error e

def ident : Reader String := do
  match ← next with
  | .token (.ident name) _ => pure name
  | _ => fail

def keyword : Reader String := do
  return Text.lower (← ident)

def oneOf (words : List String) : Reader String := do
  let word ← keyword
  if words.contains word then pure word else fail

def word (w : String) : Reader Unit := do
  let _ ← oneOf [w]

def string : Reader String := do
  match ← next with
  | .token (.string s) _ => pure s
  | _ => fail

def comma : Reader Unit := do
  match ← next with
  | .token .comma _ => pure ()
  | _ => fail

def colon : Reader Unit := do
  match ← next with
  | .token .colon _ => pure ()
  | _ => fail

def delim (c : Char) : Reader Unit := do
  if (← next).isDelim c then pure () else fail

def block (kind : Bracket) : Reader (List Component) := do
  match ← next with
  | .block k items _ => if k = kind then pure items else fail
  | _ => fail

/-- A function: its name in lower case and its arguments. -/
def function : Reader (String × List Component) := do
  match ← next with
  | .function name _ items _ => pure (Text.lower name, items)
  | _ => fail

def functionNamed (names : List String) : Reader (List Component) := do
  let (name, items) ← function
  if names.contains name then pure items else fail

def url : Reader String := do
  match ← next with
  | .token (.url s) _ => pure s
  | .function name _ items _ => if Text.lower name = "url" then inside string items else fail
  | _ => fail

def urlOrString : Reader String :=
  firstOf [url, string]

def allParts {α : Type} (r : Reader α) : List (List Component) → Except Fault (List α)
  | [] => .ok []
  | part :: rest =>
      match all r (skipBlanks part) with
      | .error e => .error e
      | .ok a =>
          match allParts r rest with
          | .error e => .error e
          | .ok more => .ok (a :: more)

/-- All that is left, as parts between commas. -/
def commaSeparated {α : Type} (r : Reader α) : Reader (List α) := fun s =>
  match allParts r (Component.splitCommas s) with
  | .ok xs => .ok (xs, [])
  | .error e => .error e

def atMost {α : Type} (r : Reader α) : Nat → Reader (List α)
  | 0 => pure []
  | count + 1 => do
      match ← optional r with
      | none => pure []
      | some a => return a :: (← atMost r count)

def many {α : Type} (r : Reader α) : Reader (List α) := fun s =>
  atMost r s.length s

def rest : Reader (List Component) := fun s =>
  .ok (s, [])

end Reader

end Css

end StylePrune
