import StylePrune.Css.Verbatim

/-!
# Readers of values

The building blocks of property values: words, lists, sides of a box, and parts that may
stand in any order.  A value is read into the text that it is printed as.
-/

namespace StylePrune

namespace Css

namespace Reader

def words (ws : List String) : Reader Printed := do
  return (← oneOf ws : String)

def measureText (r : Reader Measure) : Reader Printed := do
  return (← r).text

def lengthText : Reader Printed :=
  measureText length

def lengthPercentageText : Reader Printed :=
  measureText lengthPercentage

def lengthOr (ws : List String) : Reader Printed :=
  firstOf [words ws, lengthPercentageText]

def numberText : Reader Printed := do
  return Number.compact (← number)

def integerText : Reader Printed := do
  return toString (← integer)

def colorText : Reader Printed := do
  return (← color).text

def urlPiece : Reader Printed := do
  return [.url (← url)]

/-- A string, an identifier or both, as a name of the author's. -/
def customIdent : Reader String := do
  let name ← ident
  let word := Text.lower name
  if ["initial", "inherit", "unset", "default", "revert", "revert-layer"].contains word then fail
  else pure name

def customIdentText : Reader Printed := do
  return identText (← customIdent)

def commaList (r : Reader Printed) : Reader Printed := do
  return Printed.joinWith "," (← commaSeparated r)

def spaceList (r : Reader Printed) : Reader Printed := do
  let xs ← many r
  if xs.isEmpty then fail else pure (Printed.joinWith " " xs)

/-- One or two values; the second one is left out if it is the first one again. -/
def pair (r : Reader Printed) : Reader Printed := do
  let a ← r
  match ← optional r with
  | none => pure a
  | some b => return if a = b then a else Printed.joinWith " " [a, b]

/-- The values of four sides, without those that follow from the others. -/
def sidesText (top right bottom left : Printed) : Printed :=
  if right = left then
    if top = bottom then if top = right then top else Printed.joinWith " " [top, right]
    else Printed.joinWith " " [top, right, bottom]
  else Printed.joinWith " " [top, right, bottom, left]

/-- One to four values for the sides of a box. -/
def fourSides (r : Reader Printed) : Reader (Printed × Printed × Printed × Printed) := do
  match ← atMost r 4 with
  | [a] => pure (a, a, a, a)
  | [a, b] => pure (a, b, a, b)
  | [a, b, c] => pure (a, b, c, b)
  | [a, b, c, d] => pure (a, b, c, d)
  | _ => fail

def sides (r : Reader Printed) : Reader Printed := do
  let (a, b, c, d) ← fourSides r
  return sidesText a b c d

/-- Takes the first reader that succeeds, together with its place. -/
def firstSlot (readers : List (Option (Reader Printed))) (place : Nat) :
    Reader (Nat × Printed) :=
  match readers with
  | [] => fail
  | none :: more => firstSlot more (place + 1)
  | some r :: more => fun s =>
      match r s with
      | .ok (p, rest) => .ok ((place, p), rest)
      | .error _ => firstSlot more (place + 1) s

def fillSlots (readers : List (Option (Reader Printed))) (filled : List (Option Printed)) :
    Nat → Reader (List (Option Printed))
  | 0 => pure filled
  | fuel + 1 => do
      match ← optional (firstSlot readers 0) with
      | none => pure filled
      | some (i, p) => fillSlots (readers.set i none) (filled.set i (some p)) fuel

/-- Parts that may stand in any order; at least one of them is there. -/
def anyOrder (readers : List (Reader Printed)) : Reader (List (Option Printed)) := do
  let empty := readers.map fun _ => (none : Option Printed)
  let filled ← fillSlots (readers.map some) empty readers.length
  if filled.all Option.isNone then fail else pure filled

/-- Parts that are printed in the order of their readers. -/
def inOrder (readers : List (Reader Printed)) : Reader Printed := do
  return Printed.joinWith " " ((← anyOrder readers).filterMap id)

/--
Parts that may stand in any order, each with the text of its initial value, which is not
printed.  If nothing else is left, `blank` is printed.
-/
def shorthand (parts : List (Reader Printed × String)) (blank : Printed) : Reader Printed := do
  let filled ← anyOrder (parts.map Prod.fst)
  let shown := (filled.zip (parts.map Prod.snd)).filterMap fun (p, initial) =>
    match p with
    | some p => if p = Printed.ofText initial then none else some p
    | none => none
  return if shown.isEmpty then blank else Printed.joinWith " " shown

end Reader

/-- Properties of one kind, and the reader of their values. -/
structure PropertyGroup where
  names : List String
  value : Reader Printed

end Css

end StylePrune
