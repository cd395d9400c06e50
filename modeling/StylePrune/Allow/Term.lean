import StylePrune.Pattern.Parser

/-!
# Search terms

A search term is a literal text or a glob.  Each is turned into the text of a pattern, and
the terms of an entry into one pattern.
-/

namespace StylePrune

namespace Allow

open Text Pattern

/-- The end of an identifier in a selector: one of a few characters, or the end. -/
def boundary : List Char :=
  "(?:[\\s.:,\\[]|$)".toList

inductive GlobToken
  | literal (c : Char)
  /-- A star inside the glob: any characters but line ends. -/
  | anything
  /-- A star after a space: the end of a compound, then any characters. -/
  | afterSpace
  /-- A star at the end: the rest of an identifier. -/
  | restOfName
  deriving BEq, DecidableEq, Repr

namespace GlobToken

def ofText : List Char → List GlobToken
  | [] => []
  | ' ' :: '*' :: rest => afterSpace :: ofText rest
  | ['*'] => [restOfName]
  | '*' :: rest => anything :: ofText rest
  | c :: rest => literal c :: ofText rest

def pattern : GlobToken → List Char
  | literal c => escapeText [c]
  | anything => ".*?".toList
  | afterSpace => "(?:\\s|$|,|:).*?".toList
  | restOfName => "[^\\s.:,\\[]*".toList ++ boundary

end GlobToken

/-- A term with a star, the universal selector aside. -/
def isGlob (term : List Char) : Bool :=
  term != ['*'] && term.contains '*'

/--
The pattern for a glob.  Without a star in front it starts where the selector starts, after
an optional `.` or `#`.
-/
def globPattern : List Char → List Char
  | '*' :: c :: rest => (GlobToken.ofText (c :: rest)).flatMap GlobToken.pattern
  | term => "^[.#]?".toList ++ (GlobToken.ofText term).flatMap GlobToken.pattern

def alternatives (patterns : List (List Char)) : List Char :=
  "(?:".toList ++ ['|'].intercalate patterns ++ [')']

/-- The terms of an entry without blanks at their ends; blank ones go. -/
def cleanTerms (search : List String) : List (List Char) :=
  (search.map fun term => trim term.toList).filter (· != [])

/-- The pattern for literal terms, each followed by a boundary. -/
def literalPattern? (terms : List (List Char)) : Option (List Char) :=
  if terms.isEmpty then none
  else some (alternatives (terms.map escapeText) ++ boundary)

def globsPattern? (terms : List (List Char)) : Option (List Char) :=
  if terms.isEmpty then none else some (alternatives (terms.map globPattern))

def eitherPattern? : Option (List Char) → Option (List Char) → Option (List Char)
  | some p, some q => some (alternatives [p] ++ ['|'] ++ alternatives [q])
  | some p, none => some p
  | none, q => q

/--
The text of the pattern for search terms and a raw pattern.  A raw pattern turns globs off:
beside it every term is literal.
-/
def patternText? (search : List String) (raw : Option String) : Option (List Char) :=
  let terms := cleanTerms search
  match raw with
  | some raw => eitherPattern? (literalPattern? terms) (some raw.toList)
  | none =>
      let (globs, literals) := terms.partition isGlob
      eitherPattern? (literalPattern? literals) (globsPattern? globs)

end Allow

end StylePrune
