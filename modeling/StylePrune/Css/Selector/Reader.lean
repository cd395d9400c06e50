import StylePrune.Css.Selector.Basic

/-!
# Reading selectors

Selectors from the components of a stylesheet, for style rules, nested rules and scopes.
-/

namespace StylePrune

namespace Css

namespace Reader

/-! ## Pseudo-classes and pseudo-elements -/

def knownPseudoClasses : List String := [
  "hover", "active", "focus", "focus-visible", "focus-within", "current", "past", "future",
  "playing", "paused", "seeking", "stalled", "buffering", "muted", "volume-locked", "fullscreen",
  "-webkit-full-screen", "-moz-full-screen", "-ms-fullscreen", "open", "closed", "modal",
  "picture-in-picture", "popover-open", "defined", "any-link", "-webkit-any-link",
  "-moz-any-link", "link", "local-link", "target", "target-within", "visited", "enabled",
  "disabled", "read-only", "-moz-read-only", "read-write", "-moz-read-write",
  "placeholder-shown", "-moz-placeholder-shown", "-ms-input-placeholder", "default", "checked",
  "indeterminate", "blank", "valid", "invalid", "in-range", "out-of-range", "required",
  "optional", "user-valid", "user-invalid", "autofill", "-webkit-autofill", "-o-autofill",
  "active-view-transition"]

def scrollbarClasses : List String :=
  ["horizontal", "vertical", "decrement", "increment", "start", "end", "double-button",
    "single-button", "no-button", "corner-present", "window-inactive"]

def actionClasses : List String :=
  ["hover", "active", "focus", "focus-visible", "focus-within"]

def positionClasses : List String :=
  ["first-child", "last-child", "only-child", "root", "empty", "scope", "host", "first-of-type",
    "last-of-type", "only-of-type"]

/-- Pseudo-elements that may be written with one colon. -/
def oldElements : List String :=
  ["before", "after", "first-line", "first-letter"]

def scrollbarElements : List String :=
  ["-webkit-scrollbar", "-webkit-scrollbar-button", "-webkit-scrollbar-track",
    "-webkit-scrollbar-track-piece", "-webkit-scrollbar-thumb", "-webkit-scrollbar-corner",
    "-webkit-resizer"]

def knownElements : List String :=
  ["marker", "cue", "cue-region", "selection", "-moz-selection", "placeholder",
    "-webkit-input-placeholder", "-moz-placeholder", "-ms-input-placeholder", "backdrop",
    "-webkit-backdrop", "file-selector-button", "-webkit-file-upload-button", "-ms-browse",
    "view-transition"]

/-- What stands before a place in a compound selector. -/
inductive Stage
  | plain
  | afterElement
  | afterScrollbar
  | afterPart
  | afterSlotted
  deriving DecidableEq, Repr

namespace Stage

def isAfterElement : Stage → Bool
  | afterElement | afterScrollbar => true
  | _ => false

end Stage

structure Place where
  stage : Stage
  /-- Pseudo-elements may stand here. -/
  elements : Bool
  /-- Combinators may stand here. -/
  combinators : Bool

namespace Place

def top : Place :=
  ⟨.plain, true, true⟩

def withoutElements (p : Place) : Place :=
  { p with elements := false }

end Place

def simplePseudoClass (stage : Stage) (name : String) : Option Simple :=
  let known := Text.lower name
  if stage = .afterSlotted then none
  else if stage = .plain && positionClasses.contains known then some (.pseudoClass known)
  else
    let isScrollbar := scrollbarClasses.contains known
    let shown := if isScrollbar || knownPseudoClasses.contains known then known else name
    let allowed := match stage with
      | .afterScrollbar =>
          isScrollbar || ["enabled", "disabled", "hover", "active"].contains known
      | .afterElement => actionClasses.contains known
      | _ => !isScrollbar
    if allowed then some (.pseudoClass shown) else none

def simpleElement (name : String) : Simple × Stage :=
  let known := Text.lower name
  if oldElements.contains known then (.pseudoElement (":" ++ known), .afterElement)
  else if scrollbarElements.contains known then
    (.pseudoElement ("::" ++ known), .afterScrollbar)
  else if knownElements.contains known then (.pseudoElement ("::" ++ known), .afterElement)
  else (.pseudoElement ("::" ++ name), .plain)

/-- Arguments that are kept as they are, in both layouts. -/
def arguments (items : List Component) : Reader (String × String) := do
  let compact ← ofOption (verbatim? .compact items)
  let readable ← ofOption (verbatim? .readable items)
  return (compact.plain, readable.plain)

/-! ## Multiples -/

/-- A number without a sign, after a sign that stands alone. -/
def unsignedInteger : Reader Int := do
  let n ← plainNumber
  if n.signed then fail else ofOption n.whole?

def offset : Reader Int :=
  firstOf [do
    let n ← plainNumber
    if n.signed then ofOption n.whole? else fail,
    do
      delim '+'
      unsignedInteger,
    do
      delim '-'
      return -(← unsignedInteger),
    pure 0]

/-- What follows a multiple `a` and the letter `n`. -/
def afterMultiple (a : Int) (tail : List Char) : Reader (Int × Int) :=
  match tail with
  | [] => do return (a, ← offset)
  | ['-'] => do return (a, -(← unsignedInteger))
  | '-' :: digits =>
      let b : Int := -(Text.decimalNumber digits)
      if digits.all Char.isDigit ∧ wholeLimits.1 ≤ b then pure (a, b) else fail
  | _ => fail

/-- A multiple and an offset, such as `2n+1`. -/
def affine : Reader (Int × Int) := do
  match ← nextRaw >>= fun c => if c.isBlank then next else pure c with
  | .token (.number n) _ => do return (0, ← ofOption n.whole?)
  | .token (.dimension n unit) _ =>
      match n.whole?, (Text.lower unit).toList with
      | some a, 'n' :: tail => afterMultiple a tail
      | _, _ => fail
  | .token (.ident name) _ =>
      match (Text.lower name).toList with
      | ['e', 'v', 'e', 'n'] => pure (2, 0)
      | ['o', 'd', 'd'] => pure (2, 1)
      | 'n' :: tail => afterMultiple 1 tail
      | '-' :: 'n' :: tail => afterMultiple (-1) tail
      | _ => fail
  | .token (.delim '+') _ =>
      match ← nextRaw with
      | .token (.ident name) _ =>
          match (Text.lower name).toList with
          | 'n' :: tail => afterMultiple 1 tail
          | _ => fail
      | _ => fail
  | _ => fail

/-! ## Names and attributes -/

def afterBar (ns : NamespacePart) (inAttribute : Bool) : Reader (List Simple) := do
  match ← nextRaw with
  | .token (.ident name) _ => pure [.namespacePart ns, .type name]
  | .token (.delim '*') _ => if inAttribute then fail else pure [.namespacePart ns, .universal]
  | _ => fail

def bar : Reader Unit := do
  match ← nextRaw with
  | .token (.delim '|') _ => pure ()
  | _ => fail

def typeSelector : Reader (List Simple) := fun s =>
  match skipComments s with
  | .token (.ident name) _ :: rest =>
      match bar rest with
      | .ok (_, rest) => afterBar (.named name) false rest
      | .error _ => .ok ([.type name], rest)
  | .token (.delim '*') _ :: rest =>
      match bar rest with
      | .ok (_, rest) => afterBar .any false rest
      | .error _ => .ok ([.universal], rest)
  | .token (.delim '|') _ :: rest => afterBar .empty false rest
  | _ => .ok ([], s)

def attributeName : Reader (Option NamespacePart × String) := fun s =>
  let qualified (ns : NamespacePart) (rest : List Component) :
      Except Fault ((Option NamespacePart × String) × List Component) :=
    match afterBar ns true rest with
    | .ok ([_, .type name], rest) => .ok ((if ns = .empty then none else some ns, name), rest)
    | .ok _ => .error .unexpected
    | .error e => .error e
  match skipBlanks s with
  | .token (.ident name) _ :: rest =>
      match bar rest with
      | .ok (_, rest) => qualified (.named name) rest
      | .error _ => .ok ((none, name), rest)
  | .token (.delim '*') _ :: rest =>
      match bar rest with
      | .ok (_, rest) => qualified .any rest
      | .error e => .error e
  | .token (.delim '|') _ :: rest => qualified .empty rest
  | _ => .error .unexpected

def identOrString : Reader String :=
  firstOf [ident, string]

def caseFlag : Reader CaseFlag := do
  if ← atEnd then pure .none
  else if (← oneOf ["i", "s"]) = "i" then pure .insensitive
  else pure .sensitive

def attributeTest : Reader AttributeTest := do
  let (ns, name) ← attributeName
  if ← atEnd then pure ⟨ns, name, none⟩
  else
    let operator ← do
      match ← next with
      | .token (.delim '=') _ => pure "="
      | .token (.matching c) _ => pure (c.toString ++ "=")
      | _ => fail
    let value ← identOrString
    let flag ← caseFlag
    pure ⟨ns, name, some (operator, value, flag)⟩

/-! ## Simple and compound selectors -/

def nthKind? (name : String) : Option NthKind :=
  [NthKind.child, .lastChild, .ofType, .lastOfType, .column, .lastColumn].find? fun k =>
    k.name == name

/-- `:any()` in the spelling of a browser. -/
def anyNames : List String :=
  ["-webkit-any", "-moz-any"]

def combinator : Reader (Option Combinator) := fun s =>
  let afterMark (c : Combinator) (rest : List Component) :
      Except Fault (Option Combinator × List Component) :=
    .ok (some c, rest)
  match skipBlanks s with
  | [] => .ok (none, s)
  | c :: rest =>
      if c.isDelim '>' then afterMark .child rest
      else if c.isDelim '+' then afterMark .next rest
      else if c.isDelim '~' then afterMark .later rest
      else
        match skipComments s with
        | d :: _ => if d.isBlank then .ok (some .descendant, c :: rest) else .ok (none, s)
        | [] => .ok (none, s)

/-- The relation that a relative selector starts with. -/
def relation : Reader (Option Combinator) := fun s =>
  match skipBlanks s with
  | c :: rest =>
      if c.isDelim '>' then .ok (some .child, rest)
      else if c.isDelim '+' then .ok (some .next, rest)
      else if c.isDelim '~' then .ok (some .later, rest)
      else .ok (none, s)
  | [] => .error .ended

mutual

def functionalClass (place : Place) : Nat → String → List Component → Reader Simple
  | 0, _, _ => fail
  | fuel + 1, name, items =>
      let known := Text.lower name
      let inner := place.withoutElements
      match nthKind? known with
      | some kind =>
          if place.stage ≠ .plain then fail
          else
            inside (do
              let (a, b) ← affine
              let counted := kind == .child || kind == .lastChild
              if counted && (← optional (word "of")).isSome then
                let among ← lenientList inner fuel
                pure (.nth kind a b (some among))
              else pure (.nth kind a b none)) items
      | none =>
          if known = "is" ∨ known = "where" ∨ anyNames.contains known then do
            let list ← inside (lenientList inner fuel) items
            pure (.matching known list)
          else if known = "not" then do
            let list ← inside (strictList inner fuel) items
            pure (.matching known list)
          else if known = "has" then do
            let list ← inside (relativeList place fuel) items
            pure (.matching known list)
          else if known = "host" then
            if place.stage ≠ .plain then fail
            else do
              let s ← inside (complex { inner with combinators := false } none fuel) items
              pure (.about ":host" s)
          else if place.stage ≠ .plain then fail
          else if known = "lang" then do
            let tags ← inside (commaSeparated identOrString) items
            let tags := tags.map identText
            pure (.pseudoCall known (String.intercalate "," tags) (String.intercalate ", " tags))
          else if known = "dir" then do
            let direction ← inside (oneOf ["ltr", "rtl"]) items
            pure (.pseudoCall known direction direction)
          else do
            let (compact, readable) ← arguments items
            pure (.pseudoCall name compact readable)

/-- A pseudo-element with arguments, and what may follow it. -/
def functionalElement (place : Place) : Nat → String → List Component → Reader (Simple × Stage)
  | 0, _, _ => fail
  | fuel + 1, name, items =>
      let known := Text.lower name
      if known = "part" then
        if place.stage ≠ .plain then fail
        else do
          let first ← inside (many ident) items
          if first.isEmpty then fail
          let names := String.intercalate " " (first.map identText)
          pure (.elementCall known names names, .afterPart)
      else if known = "slotted" then do
        let s ← inside (complex { place.withoutElements with combinators := false } none fuel) items
        pure (.about "::slotted" s, .afterSlotted)
      else if known = "cue" ∨ known = "cue-region" then do
        let s ← inside (complex .top none fuel) items
        pure (.about ("::" ++ known) s, .afterElement)
      else do
        let (compact, readable) ← arguments items
        pure (.elementCall name compact readable, .plain)

/-- What follows one or two colons. -/
def pseudo (place : Place) : Nat → Reader (Simple × Stage)
  | 0 => fail
  | fuel + 1 => do
      let first ← nextRaw
      let (doubled, c) ← match first with
        | .token .colon _ => do
            let c ← nextRaw
            pure (true, c)
        | c => pure (false, c)
      match c with
      | .token (.ident name) _ =>
          if doubled || oldElements.contains (Text.lower name) then
            if place.elements && !place.stage.isAfterElement then pure (simpleElement name)
            else fail
          else do
            let x ← ofOption (simplePseudoClass place.stage name)
            pure (x, place.stage)
      | .function name _ items _ =>
          if doubled then
            if place.elements && !place.stage.isAfterElement then
              functionalElement place fuel name items
            else fail
          else do
            let x ← functionalClass place fuel name items
            pure (x, place.stage)
      | _ => fail

/-- A simple selector other than a type selector, if one comes next. -/
def simple (place : Place) : Nat → Reader (Option (Simple × Stage))
  | 0 => fail
  | fuel + 1 => fun s =>
      let give (x : Simple) (rest : List Component) :
          Except Fault (Option (Simple × Stage) × List Component) :=
        if place.stage = .plain then .ok (some (x, .plain), rest) else .error .unexpected
      match skipComments s with
      | .token (.hash name true) _ :: rest => give (.id name) rest
      | .token (.delim '.') _ :: rest =>
          match nextRaw rest with
          | .ok (.token (.ident name) _, rest) => give (.className name) rest
          | _ => .error .unexpected
      | .block .square items _ :: rest =>
          match all attributeTest items with
          | .ok test => give (.attribute test) rest
          | .error e => .error e
      | .token (.delim '&') _ :: rest => .ok (some (.nesting, place.stage), rest)
      | .token .colon _ :: rest =>
          match pseudo place fuel rest with
          | .ok (x, rest) => .ok (some x, rest)
          | .error e => .error e
      | _ => .ok (none, s)

def simples (place : Place) : Nat → Reader (List Simple × Stage)
  | 0 => fail
  | fuel + 1 => do
      match ← simple place fuel with
      | none => pure ([], place.stage)
      | some (x, stage) => do
          let (more, last) ← simples { place with stage } fuel
          pure (x :: more, last)

def compound (place : Place) : Nat → Reader (List Simple × Stage)
  | 0 => fail
  | fuel + 1 => fun s =>
      let s := skipBlanks s
      let (lead, s) := match s with
        | .token (.delim '&') _ :: rest => ([Simple.nesting], rest)
        | _ => ([], s)
      match typeSelector s with
      | .error e => .error e
      | .ok (name, s) =>
          match simples place fuel s with
          | .error e => .error e
          | .ok ((more, stage), s) =>
              match lead ++ name ++ more with
              | [] => .error (if s.isEmpty then .ended else .unexpected)
              | xs => .ok ((xs, stage), s)

/-- The compound selectors that follow `left`. -/
def joined (place : Place) (left : Complex) : Nat → Reader Complex
  | 0 => fail
  | fuel + 1 => do
      match ← combinator with
      | none => pure left
      | some c =>
          if !place.combinators then fail
          else do
            let (xs, stage) ← compound place fuel
            let s := Complex.join left c xs
            if stage = .plain then joined place s fuel else pure s

def complex (place : Place) (lead : Option Combinator) : Nat → Reader Complex
  | 0 => fail
  | fuel + 1 => do
      let (xs, stage) ← compound place fuel
      let s := Complex.start lead xs
      if stage = .plain then joined place s fuel else pure s

/-- A selector that may start with a combinator. -/
def relativeSelector (place : Place) : Nat → Reader Complex
  | 0 => fail
  | fuel + 1 => do
      let lead ← relation
      complex place lead fuel

/-- A list of selectors that must all be readable. -/
def strictList (place : Place) : Nat → Reader (List Complex)
  | 0 => fail
  | fuel + 1 => commaSeparated (complex place none fuel)

/-- A list of selectors, of which the readable ones count. -/
def lenientList (place : Place) : Nat → Reader (List Complex)
  | 0 => fail
  | fuel + 1 => fun s =>
      .ok ((Component.splitCommas s).filterMap (all? (complex place none fuel)), [])

def relativeList (place : Place) : Nat → Reader (List Complex)
  | 0 => fail
  | fuel + 1 => fun s =>
      .ok ((Component.splitCommas s).filterMap (all? (relativeSelector place fuel)), [])

end

def selectorFuel (items : List Component) : Nat :=
  8 * Component.weight items + 16

/-- The selectors of a style rule. -/
def selectorList : Reader (List Complex) := fun s =>
  strictList .top (selectorFuel s) s

/-- The selectors of a rule inside a style rule. -/
def nestedSelectorList : Reader (List Complex) := fun s =>
  let fuel := selectorFuel s
  match commaSeparated (relativeSelector .top fuel) s with
  | .ok (selectors, rest) => .ok (selectors.map Complex.implicit, rest)
  | .error e => .error e

def scopeSelectorList : Reader (List Complex) := fun s =>
  relativeList .top (selectorFuel s) s

end Reader

end Css

end StylePrune
