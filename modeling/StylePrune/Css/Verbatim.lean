import StylePrune.Css.Value.Color

/-!
# Values that are kept as they are

What is not understood keeps its tokens.  White space shrinks to one space, or to nothing
beside a delimiter; numbers and colours are written in their shortest form.
-/

namespace StylePrune

namespace Css

inductive Atom
  | space
  | comma
  | delim (c : Char)
  | solid (p : Printed)
  /-- The end of a bracket, after which a space means nothing. -/
  | bracketEnd (p : Printed)
  deriving DecidableEq

inductive Layout
  /-- Without white space that means nothing. -/
  | compact
  /-- For people, with a space after commas and around combinators. -/
  | readable
  deriving DecidableEq, Repr

namespace Layout

def comma : Layout → String
  | compact => ","
  | readable => ", "

/-- A mark with space around it where there is room. -/
def around (l : Layout) (mark : String) : String :=
  match l with
  | compact => mark
  | readable => " " ++ mark ++ " "

end Layout

namespace Atom

def delimText (layout : Layout) (spaced : Bool) (c : Char) : String :=
  if c = '+' ∨ c = '-' then " " ++ c.toString ++ " "
  else
    match layout with
    | .compact => c.toString
    | .readable => (if !spaced && (c == '/' || c == '*') then " " else "") ++ c.toString ++ " "

/-- A bracket's end needs a space before what is not a comma or another bracket's end. -/
def needsSpace : List Atom → Bool
  | [] => false
  | .comma :: _ => false
  | .bracketEnd [.text ")"] :: _ => false
  | _ => true

/-- Some atoms in a layout; `spaced` says that white space stands before them. -/
def print (layout : Layout) (spaced : Bool) : List Atom → Printed
  | [] => []
  | .space :: rest => .text " " :: print layout true rest
  | .comma :: rest => .text layout.comma :: print layout true rest
  | .delim c :: rest => .text (delimText layout spaced c) :: print layout true rest
  | .solid p :: rest => p ++ print layout false rest
  | .bracketEnd p :: rest =>
      if layout = .readable && needsSpace rest then p ++ .text " " :: print layout true rest
      else p ++ print layout false rest

/-- Drops one space at each end, unless the space is all there is. -/
def trim (atoms : List Atom) : List Atom :=
  if atoms.length < 2 then atoms
  else
    let atoms := match atoms with
      | .space :: rest => rest
      | _ => atoms
    match atoms.getLast? with
    | some .space => atoms.dropLast
    | _ => atoms

/-- Whether the white space before a component can go. -/
def swallowsSpace : Component → Bool
  | .token (.delim _) _ => true
  | .token .comma _ => true
  | _ => false

end Atom

/-- A percentage as it was written. -/
def percentageText (n : Numeric) : String :=
  let sign := if n.signed ∧ 0 ≤ n.value then "+" else ""
  let point := if !n.isInteger ∧ n.value.den = 1 then ".0" else ""
  sign ++ Number.print n.value ++ point ++ percentSign

/-- A dimension as it was written, with a known unit in lower case. -/
def verbatimDimension (n : Numeric) (unit : String) : String :=
  let known := Text.lower unit
  if lengthUnits.contains known || angleUnits.contains known || timeUnits.contains known ||
      resolutionUnits.contains known then quantityText n.value known
  else dimensionText n.value unit

/-- The variables that a browser sets. -/
def environmentNames : List String :=
  ["safe-area-inset-top", "safe-area-inset-right", "safe-area-inset-bottom",
    "safe-area-inset-left", "viewport-segment-width", "viewport-segment-height",
    "viewport-segment-top", "viewport-segment-left", "viewport-segment-bottom",
    "viewport-segment-right"]

/-- A name that starts with two dashes. -/
def isDashed (name : String) : Bool :=
  match name.toList with
  | '-' :: '-' :: _ => true
  | _ => false

namespace Atom

def ofToken (t : Token) : Option Atom :=
  match t with
  | .space => some .space
  | .comment => some .space
  | .comma => some .comma
  | .delim c => some (.delim c)
  | .ident name => some (.solid (identText name))
  | .atKeyword name => some (.solid ("@" ++ identText name : String))
  | .hash name _ =>
      match Color.ofDigits? name.toList with
      | some c => some (.solid c.text)
      | none => some (.solid ("#" ++ nameText name : String))
  | .string s => some (.solid (stringText s))
  | .url target => some (.solid [.url target])
  | .number n => some (.solid (Number.compact n.value))
  | .percentage n => some (.solid (percentageText n))
  | .dimension n unit => some (.solid (verbatimDimension n unit))
  | .colon => some (.solid ":")
  | .semicolon => some (.solid ";")
  | .matching c => some (.solid (c.toString ++ "=" : String))
  | .commentOpen => some (.solid "<!--")
  | .commentClose => some (.solid "-->")
  | .function _ | .opening _ | .closing _ | .badUrl | .badString => none

/-- What follows the name of a variable: a comma and a value, or nothing. -/
def fallbackOf : List Component → Option (Option (List Component))
  | [] => some none
  | c :: rest => if c.isComma then some (some rest) else none

mutual

/--
The atoms of some components.  `afterDelim` says that the atom before them makes white space
meaningless.
-/
def ofComponents (layout : Layout) : Nat → Bool → List Component → Option (List Atom)
  | 0, _, _ => none
  | _ + 1, _, [] => some []
  | fuel + 1, afterDelim, c :: rest =>
      if c.isBlank then
        if afterDelim then ofComponents layout fuel true rest
        else
          match rest with
          | d :: _ =>
              if swallowsSpace d then ofComponents layout fuel false rest
              else (ofComponents layout fuel false rest).map (Atom.space :: ·)
          | [] => some [.space]
      else
        match c with
        | .token t _ => do
            let a ← ofToken t
            return a :: (← ofComponents layout fuel (swallowsSpace c) rest)
        | .block kind items _ => do
            let inner ← ofComponents layout fuel false items
            let more ← ofComponents layout fuel true rest
            return .solid kind.opening.toString :: inner ++
              .bracketEnd kind.closing.toString :: more
        | .function name _ items _ =>
            match Reader.colorFunction? name items with
            | some color => do
                return .solid color.text :: (← ofComponents layout fuel false rest)
            | none =>
                if name = "url" then do
                  let target ← Reader.all? Reader.string items
                  return .solid [.url target] :: (← ofComponents layout fuel false rest)
                else do
                  let call ← ofFunction layout fuel name items
                  return .bracketEnd call :: (← ofComponents layout fuel true rest)

def ofFunction (layout : Layout) : Nat → String → List Component → Option Printed
  | 0, _, _ => none
  | fuel + 1, name, items =>
      if name = "var" then
        match Reader.skipBlanks items with
        | .token (.ident key) _ :: rest =>
            if isDashed key then do
              let fallback ← ofFallback layout fuel rest
              return .text ("var(" ++ identText key) :: fallback ++ [.text ")"]
            else none
        | _ => none
      else if name = "env" then
        match Reader.skipBlanks items with
        | .token (.ident key) _ :: rest => do
            let known := Text.lower key
            let shown := if environmentNames.contains known then known else key
            let (indices, rest) ← (Reader.many Reader.integer rest).toOption
            let indices := String.join (indices.map fun n => " " ++ toString n)
            let fallback ← ofFallback layout fuel rest
            return .text ("env(" ++ identText shown ++ indices) :: fallback ++ [.text ")"]
        | _ => none
      else do
        let atoms ← ofComponents layout fuel false items
        return .text (identText name ++ "(") :: Atom.print layout false (trim atoms) ++ [.text ")"]

/-- The value that stands in for a variable, with the comma before it. -/
def ofFallback (layout : Layout) : Nat → List Component → Option Printed
  | 0, _ => none
  | fuel + 1, rest =>
      match fallbackOf (Reader.skipBlanks rest) with
      | none => none
      | some none => some []
      | some (some value) => do
          let atoms ← ofComponents layout fuel false value
          return .text layout.comma :: Atom.print layout false (trim atoms)

end

end Atom

/-- Components as they are, in a layout; `none` if one of them cannot be read. -/
def verbatim? (layout : Layout) (items : List Component) : Option Printed := do
  let atoms ← Atom.ofComponents layout (2 * Component.weight items + 2) false items
  return Atom.print layout false (Atom.trim atoms)

end Css

end StylePrune
