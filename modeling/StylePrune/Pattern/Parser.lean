import StylePrune.Pattern.Property
import StylePrune.Pattern.Regex

/-!
# Reading patterns

The syntax of patterns: literals, sets, repetition, groups and flags.  A pattern is read
from left to right with a stack of the groups that are open.
-/

namespace StylePrune

namespace Pattern

open Text

/-- What the flags of a pattern say at one place. -/
structure Flags where
  ignoreCase : Bool
  multiLine : Bool
  /-- The dot matches line ends too. -/
  dotAll : Bool
  unicode : Bool
  /-- A carriage return ends a line as well. -/
  crlf : Bool
  /-- Blanks and comments in the pattern mean nothing. -/
  verbose : Bool
  deriving BEq, DecidableEq, Repr

def Flags.initial : Flags :=
  ⟨false, false, false, true, false, false⟩

/-- The pattern after blanks and comments. -/
def skipBlanks (inComment : Bool) : List Char → List Char
  | [] => []
  | c :: rest =>
      if inComment then skipBlanks (c != '\n') rest
      else if isBlank c then skipBlanks false rest
      else if c = '#' then skipBlanks true rest
      else c :: rest

/-- The pattern at the next place that means something. -/
def Flags.skip (flags : Flags) (s : List Char) : List Char :=
  if flags.verbose then skipBlanks false s else s

/-- What a backslash and the text after it stand for. -/
inductive Escape
  | char (c : Char)
  | set (s : CharSet)
  | look (l : Look)

/-- Characters with a meaning of their own, which a backslash takes away. -/
def isMeta (c : Char) : Bool :=
  "\\.+*?()|[]\x7b\x7d^$#&-~".toList.contains c

/-- A backslash may stand before any ASCII character but letters, digits, `<` and `>`. -/
def isEscapable (c : Char) : Bool :=
  isMeta c || (isAscii c && !isAsciiAlphanumeric c && c != '<' && c != '>')

def escapeText (s : List Char) : List Char :=
  s.flatMap fun c => if isMeta c then ['\\', c] else [c]

def hexFixed? (flags : Flags) : Nat → List Char → Option (List Char × List Char)
  | 0, s => some ([], s)
  | n + 1, s =>
      match flags.skip s with
      | c :: rest =>
          if isHexDigit c then (hexFixed? flags n rest).map fun (ds, rest) => (c :: ds, rest)
          else none
      | [] => none

def hexBraced? (flags : Flags) (s : List Char) : Option (List Char × List Char) :=
  let body := s.takeWhile (· != '\x7d')
  let digits := if flags.verbose then body.filter fun c => !isBlank c else body
  match s.dropWhile (· != '\x7d') with
  | [] => none
  | _ :: rest =>
      if digits.isEmpty || !digits.all isHexDigit then none else some (digits, rest)

def hexChar? (flags : Flags) (digits : Nat) (s : List Char) : Option (Char × List Char) := do
  let (ds, rest) ← match flags.skip s with
    | '\x7b' :: rest => hexBraced? flags rest
    | s => hexFixed? flags digits s
  return (← scalar? (hexNumber ds), rest)

/-- The set after `\p` and the text after it. -/
def propertyEscape? (flags : Flags) (s : List Char) : Option (CharSet × List Char) :=
  match flags.skip s with
  | [] => none
  | '\x7b' :: rest =>
      match rest.dropWhile (· != '\x7d') with
      | [] => none
      | _ :: after => do
          return (← propertyText? (rest.takeWhile (· != '\x7d')), after)
  | '\\' :: _ => none
  | c :: rest => do return (← propertyNamed? [c], rest)

def Flags.wordSet (flags : Flags) : CharSet :=
  if flags.unicode then .property .word else .asciiWord

/-- A set without negation; a negated one is refused where text is not read as Unicode. -/
def Flags.classEscape? (flags : Flags) (negated : Bool) (full ascii : CharSet) :
    Option CharSet :=
  if flags.unicode then some (.complIf negated full)
  else if negated then none
  else some ascii

/-- The condition named in the braces after `\b`, if there is a name. -/
def boundaryNamed? (flags : Flags) (s : List Char) : Option (Option Look × List Char) :=
  match s with
  | '\x7b' :: rest =>
      let isNamePart (c : Char) := isAsciiLetter c || c == '-'
      let name := (flags.skip rest).takeWhile isNamePart
      if name.isEmpty then none
      else
        match (flags.skip rest).dropWhile isNamePart with
        | '\x7d' :: after =>
            let look := match String.ofList name with
              | "start" => some (Look.wordStart flags.wordSet)
              | "end" => some (Look.wordEnd flags.wordSet)
              | "start-half" => some (Look.wordStartHalf flags.wordSet)
              | "end-half" => some (Look.wordEndHalf flags.wordSet)
              | _ => none
            some (look, after)
        | after => some (none, after)
  | _ => none

def readEscape? (flags : Flags) (s : List Char) : Option (Escape × List Char) :=
  match s with
  | [] => none
  | c :: rest =>
      match c with
      | 'x' => (hexChar? flags 2 rest).map fun (c, rest) => (.char c, rest)
      | 'u' => (hexChar? flags 4 rest).map fun (c, rest) => (.char c, rest)
      | 'U' => (hexChar? flags 8 rest).map fun (c, rest) => (.char c, rest)
      | 'p' =>
          if flags.unicode then
            (propertyEscape? flags rest).map fun (s, rest) => (.set s, rest)
          else none
      | 'P' =>
          if flags.unicode then
            (propertyEscape? flags rest).map fun (s, rest) => (.set (.compl s), rest)
          else none
      | 'd' => charClass false (.property .digit) .asciiDigit rest
      | 'D' => charClass true (.property .digit) .asciiDigit rest
      | 's' => charClass false (.property .blank) .asciiBlank rest
      | 'S' => charClass true (.property .blank) .asciiBlank rest
      | 'w' => charClass false (.property .word) .asciiWord rest
      | 'W' => charClass true (.property .word) .asciiWord rest
      | 'a' => some (.char '\x07', rest)
      | 'f' => some (.char '\x0c', rest)
      | 't' => some (.char '\t', rest)
      | 'n' => some (.char '\n', rest)
      | 'r' => some (.char '\r', rest)
      | 'v' => some (.char '\x0b', rest)
      | 'A' => some (.look .textStart, rest)
      | 'z' => some (.look .textEnd, rest)
      | 'b' =>
          match boundaryNamed? flags rest with
          | some (some l, rest) => some (.look l, rest)
          | some (none, _) => none
          | none => some (.look (.wordBoundary flags.wordSet), rest)
      | 'B' => some (.look (.notWordBoundary flags.wordSet), rest)
      | '<' => some (.look (.wordStart flags.wordSet), rest)
      | '>' => some (.look (.wordEnd flags.wordSet), rest)
      | c => if isEscapable c then some (.char c, rest) else none
where
  charClass (negated : Bool) (full ascii : CharSet) (rest : List Char) :
      Option (Escape × List Char) :=
    (flags.classEscape? negated full ascii).map fun s => (.set s, rest)

/-! ## Sets in brackets -/

/-- An operation between two sets in brackets. -/
inductive SetOp
  | inter
  | diff
  | symmDiff

def SetOp.apply : SetOp → CharSet → CharSet → CharSet
  | inter, s, t => .inter s t
  | diff, s, t => .diff s t
  | symmDiff, s, t => .symmDiff s t

/-- The depth of parts that stand side by side; a part alone adds none. -/
def depthBeside (count deepest : Nat) : Nat :=
  if count ≤ 1 then deepest else deepest + 1

/-- A set with the depth of the sets and operations in its brackets. -/
structure NestedSet where
  set : CharSet
  depth : Nat
  deriving Repr

/-- A set in brackets that is still open. -/
structure OpenSet where
  negated : Bool
  /-- What stands before the last operation, and the operation. -/
  pending : Option (NestedSet × SetOp)
  /-- The items since. -/
  items : CharSet
  count : Nat
  /-- The depth of the deepest of them. -/
  deepest : Nat

namespace OpenSet

/-- An open set in which some hyphens stand for themselves. -/
def start (negated : Bool) (hyphens : List Char) : OpenSet :=
  ⟨negated, none, .ofList hyphens, hyphens.length, 0⟩

def add (s : OpenSet) (item : NestedSet) : OpenSet :=
  { s with
    items := .union s.items item.set, count := s.count + 1, deepest := max s.deepest item.depth }

def value (s : OpenSet) : NestedSet :=
  let depth := depthBeside s.count s.deepest
  match s.pending with
  | none => ⟨s.items, depth⟩
  | some (left, op) => ⟨op.apply left.set s.items, max left.depth depth + 1⟩

def addOp (s : OpenSet) (op : SetOp) : OpenSet :=
  { s with pending := some (s.value, op), items := .empty, count := 0, deepest := 0 }

def close (flags : Flags) (s : OpenSet) : NestedSet :=
  ⟨.complIf s.negated (.foldIf flags.ignoreCase s.value.set), s.value.depth + 1⟩

end OpenSet

/-- The start of a set in brackets, after the opening one. -/
def openSet? (flags : Flags) (s : List Char) : Option (OpenSet × List Char) :=
  let (negated, s) := match flags.skip s with
    | '^' :: rest => (true, flags.skip rest)
    | s => (false, s)
  let hyphens := s.takeWhile (· == '-')
  let s := flags.skip (s.dropWhile (· == '-'))
  let set := OpenSet.start negated hyphens
  if negated && !flags.unicode then none
  else
    match hyphens, s with
    | _, [] => none
    | [], ']' :: rest => some (set.add ⟨.single ']', 0⟩, rest)
    | _, s => some (set, s)

/-- A class such as `[:alpha:]` at the start of a text. -/
def bracketClass? (s : List Char) : Option (CharSet × List Char) :=
  match s with
  | '[' :: ':' :: rest =>
      let (negated, rest) := match rest with
        | '^' :: rest => (true, rest)
        | rest => (false, rest)
      match rest.dropWhile (· != ':') with
      | ':' :: ']' :: after => do
          let set ← asciiClass? (String.ofList (rest.takeWhile (· != ':')))
          return (.complIf negated set, after)
      | _ => none
  | _ => none

def setItem? (flags : Flags) (s : List Char) : Option (Escape × List Char) :=
  match s with
  | [] => none
  | '\\' :: rest => readEscape? flags rest
  | c :: rest => some (.char c, rest)

/-- The next character that means something is a hyphen that makes a range. -/
def rangeFollows? (flags : Flags) (s : List Char) : Option (List Char) :=
  match s with
  | '-' :: rest =>
      match flags.skip rest with
      | ']' :: _ => none
      | '-' :: _ => none
      | rest => some rest
  | _ => none

def setRange? (flags : Flags) (s : List Char) : Option (CharSet × List Char) := do
  let (first, rest) ← setItem? flags s
  match rangeFollows? flags (flags.skip rest) with
  | none =>
      match first with
      | .char c => return (.single c, rest)
      | .set set => return (set, rest)
      | .look _ => none
  | some rest =>
      let (last, rest) ← setItem? flags rest
      match first, last with
      | .char a, .char b => if a ≤ b then return (.range a b, rest) else none
      | _, _ => none

/-- The rest of sets in brackets, the innermost first, up to the last closing bracket. -/
def readSets (flags : Flags) (fuel : Nat) (current : OpenSet) (outer : List OpenSet)
    (s : List Char) : Option (NestedSet × List Char) :=
  match fuel with
  | 0 => none
  | fuel + 1 =>
      let s := flags.skip s
      match s with
      | [] => none
      | '[' :: rest =>
          match bracketClass? s with
          | some (set, rest) => readSets flags fuel (current.add ⟨set, 0⟩) outer rest
          | none => do
              let (inner, rest) ← openSet? flags rest
              readSets flags fuel inner (current :: outer) rest
      | ']' :: rest =>
          match outer with
          | [] => some (current.close flags, rest)
          | parent :: outer =>
              readSets flags fuel (parent.add (current.close flags)) outer rest
      | '&' :: '&' :: rest => readSets flags fuel (current.addOp .inter) outer rest
      | '-' :: '-' :: rest => readSets flags fuel (current.addOp .diff) outer rest
      | '~' :: '~' :: rest => readSets flags fuel (current.addOp .symmDiff) outer rest
      | s => do
          let (set, rest) ← setRange? flags s
          readSets flags fuel (current.add ⟨set, 0⟩) outer rest

def bracketSet? (flags : Flags) (s : List Char) : Option (NestedSet × List Char) := do
  let (set, rest) ← openSet? flags s
  readSets flags (s.length + 1) set [] rest

/-! ## Repetition -/

/-- A decimal number with blanks around it. -/
def countNumber? (flags : Flags) (s : List Char) : Option Nat × List Char :=
  let s := flags.skip (dropBlanks s)
  let digits := s.takeWhile Char.isDigit
  let rest := dropBlanks (flags.skip (s.dropWhile Char.isDigit))
  if digits.isEmpty || decimalNumber digits ≥ 0x100000000 then (none, rest)
  else (some (decimalNumber digits), rest)

/-- The bounds of a counted repetition after its opening brace. -/
def counts? (flags : Flags) (s : List Char) : Option ((Nat × Option Nat) × List Char) :=
  match countNumber? flags s with
  | (some n, '\x7d' :: rest) => some ((n, some n), rest)
  | (some n, ',' :: rest) =>
      match flags.skip rest with
      | '\x7d' :: rest => some ((n, none), rest)
      | rest =>
          match countNumber? flags rest with
          | (some m, '\x7d' :: rest) => if n ≤ m then some ((n, some m), rest) else none
          | _ => none
  | _ => none

/-- The text after a question mark that makes a repetition lazy. -/
def dropLazy : List Char → List Char
  | '?' :: rest => rest
  | s => s

/-! ## Flags and groups -/

def Flags.set? (flags : Flags) (value : Bool) : Char → Option Flags
  | 'i' => some { flags with ignoreCase := value }
  | 'm' => some { flags with multiLine := value }
  | 's' => some { flags with dotAll := value }
  | 'U' => some flags
  | 'u' => some { flags with unicode := value }
  | 'R' => some { flags with crlf := value }
  | 'x' => some { flags with verbose := value }
  | _ => none

/-- The flags written by letters; a hyphen unsets those after it. -/
def readFlags? (flags : Flags) (value : Bool) (seen : List Char) : List Char → Option Flags
  | [] => some flags
  | ['-'] => none
  | '-' :: rest => if value then readFlags? flags false seen rest else none
  | c :: rest =>
      if seen.contains c then none
      else do readFlags? (← flags.set? value c) value (c :: seen) rest

def isGroupNameChar (isFirst : Bool) (c : Char) : Bool :=
  c == '_' || isAlphabetic c ||
    (!isFirst && (c == '.' || c == '[' || c == ']' ||
      [Category.decimalNumber, .letterNumber, .otherNumber].any (hasCategory c)))

def isGroupName : List Char → Bool
  | [] => false
  | c :: rest => isGroupNameChar true c && rest.all (isGroupNameChar false)

/-- A part of a pattern with the depth of its nesting. -/
structure Piece where
  regex : Regex
  depth : Nat
  deriving Repr

def Piece.deepest (ps : List Piece) : Nat :=
  (ps.map Piece.depth).foldl max 0

/-- The items in order as one piece; `none` stands where flags are set. -/
def Piece.concat (items : List (Option Piece)) : Piece :=
  let ps := items.filterMap id
  ⟨Regex.seqAll (ps.map Piece.regex), depthBeside items.length (deepest ps)⟩

def Piece.choice (ps : List Piece) : Piece :=
  ⟨Regex.altAll (ps.map Piece.regex), depthBeside ps.length (deepest ps)⟩

structure OpenGroup where
  /-- The alternatives before the current one, last first. -/
  before : List Piece
  /-- The pieces of the current alternative, last first; `none` where flags are set. -/
  current : List (Option Piece)
  /-- The flags that hold again after the group. -/
  outerFlags : Flags

namespace OpenGroup

def start (outerFlags : Flags) : OpenGroup :=
  ⟨[], [], outerFlags⟩

def add (g : OpenGroup) (p : Piece) : OpenGroup :=
  { g with current := some p :: g.current }

def alternative (g : OpenGroup) : Piece :=
  Piece.concat g.current.reverse

def nextAlternative (g : OpenGroup) : OpenGroup :=
  { g with before := g.alternative :: g.before, current := [] }

def piece (g : OpenGroup) : Piece :=
  Piece.choice (g.alternative :: g.before).reverse

def repeatLast? (g : OpenGroup) (least : Nat) (most : Option Nat) : Option OpenGroup :=
  match g.current with
  | some p :: rest =>
      some { g with current := some ⟨.rep p.regex least most, p.depth + 1⟩ :: rest }
  | _ => none

end OpenGroup

/-- What is known of a pattern up to some place. -/
structure State where
  flags : Flags
  group : OpenGroup
  /-- The groups around the current one, the innermost first. -/
  outer : List OpenGroup
  names : List (List Char)

namespace State

def initial : State :=
  ⟨.initial, .start .initial, [], []⟩

def add (st : State) (r : Regex) (depth : Nat) : State :=
  { st with group := st.group.add ⟨r, depth⟩ }

/-- Opens a group inside which `inner` holds. -/
def openGroup (st : State) (inner : Flags) : State :=
  { st with flags := inner, group := .start st.flags, outer := st.group :: st.outer }

def closeGroup? (st : State) : Option State :=
  match st.outer with
  | [] => none
  | parent :: outer =>
      let p := st.group.piece
      some { st with
        flags := st.group.outerFlags
        group := parent.add ⟨p.regex, p.depth + 1⟩
        outer }

def addChar? (st : State) (c : Char) : Option State :=
  if !st.flags.unicode && !isAscii c then none
  else some (st.add (.set (.foldIf st.flags.ignoreCase (.single c))) 0)

def dot? (flags : Flags) : Option CharSet :=
  if !flags.unicode then none
  else if flags.dotAll then some .any
  else if flags.crlf then some (.compl (.ofList ['\r', '\n']))
  else some (.compl (.single '\n'))

def startLook (flags : Flags) : Look :=
  if !flags.multiLine then .textStart
  else if flags.crlf then .crlfLineStart
  else .lineStart

def endLook (flags : Flags) : Look :=
  if !flags.multiLine then .textEnd
  else if flags.crlf then .crlfLineEnd
  else .lineEnd

/-- Opens the group whose opening parenthesis stands before the text, or sets flags. -/
def readGroup? (st : State) (s : List Char) : Option (State × List Char) :=
  match st.flags.skip s with
  | '?' :: '=' :: _ => none
  | '?' :: '!' :: _ => none
  | '?' :: '<' :: '=' :: _ => none
  | '?' :: '<' :: '!' :: _ => none
  | '?' :: 'P' :: '<' :: rest => named rest
  | '?' :: '<' :: rest => named rest
  | '?' :: rest =>
      let isEnd (c : Char) := c == ':' || c == ')'
      let letters := rest.takeWhile fun c => !isEnd c
      match rest.dropWhile fun c => !isEnd c with
      | ':' :: rest => do
          return (st.openGroup (← readFlags? st.flags true [] letters), rest)
      | ')' :: rest =>
          if letters.isEmpty then none
          else do
            let flags ← readFlags? st.flags true [] letters
            let group := { st.group with current := none :: st.group.current }
            return ({ st with flags, group }, rest)
      | _ => none
  | rest => some (st.openGroup st.flags, rest)
where
  named (s : List Char) : Option (State × List Char) :=
    let name := s.takeWhile (· != '>')
    match s.dropWhile (· != '>') with
    | [] => none
    | _ :: rest =>
        if isGroupName name && !st.names.contains name then
          some ({ st.openGroup st.flags with names := name :: st.names }, rest)
        else none

/-- Reads one element of a pattern, where `s` starts at a place that means something. -/
def step? (st : State) (s : List Char) : Option (State × List Char) :=
  match s with
  | [] => none
  | '(' :: rest => st.readGroup? rest
  | ')' :: rest => st.closeGroup?.map fun st => (st, rest)
  | '|' :: rest => some ({ st with group := st.group.nextAlternative }, rest)
  | '[' :: rest => do
      let (nested, rest) ← bracketSet? st.flags rest
      return (st.add (.set nested.set) nested.depth, rest)
  | '?' :: rest => quantify (some ((0, some 1), rest))
  | '*' :: rest => quantify (some ((0, none), rest))
  | '+' :: rest => quantify (some ((1, none), rest))
  | '\x7b' :: rest => quantify (counts? st.flags rest)
  | '\\' :: rest => do
      let (escape, rest) ← readEscape? st.flags rest
      match escape with
      | .char c => return (← st.addChar? c, rest)
      | .set set => return (st.add (.set (.foldIf st.flags.ignoreCase set)) 0, rest)
      | .look l => return (st.add (.look l) 0, rest)
  | '.' :: rest => (dot? st.flags).map fun set => (st.add (.set set) 0, rest)
  | '^' :: rest => some (st.add (.look (startLook st.flags)) 0, rest)
  | '$' :: rest => some (st.add (.look (endLook st.flags)) 0, rest)
  | c :: rest => (st.addChar? c).map fun st => (st, rest)
where
  quantify (counts : Option ((Nat × Option Nat) × List Char)) : Option (State × List Char) := do
    let ((least, most), rest) ← counts
    let group ← st.group.repeatLast? least most
    return ({ st with group }, dropLazy rest)

def run? (st : State) (fuel : Nat) (s : List Char) : Option State :=
  match fuel with
  | 0 => none
  | fuel + 1 =>
      match st.flags.skip s with
      | [] => some st
      | s => do
          let (st, rest) ← st.step? s
          run? st fuel rest

end State

/-- The deepest nesting that a pattern may have. -/
def nestLimit : Nat := 250

def parse? (pattern : String) : Option Regex := do
  let s := pattern.toList
  let st ← State.initial.run? (s.length + 1) s
  if st.outer.isEmpty then
    let p := st.group.piece
    if p.depth ≤ nestLimit then some p.regex else none
  else none

end Pattern

end StylePrune
