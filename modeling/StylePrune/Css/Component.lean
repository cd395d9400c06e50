import StylePrune.Css.Lexer

/-!
# Component values

A stylesheet as a tree: tokens, and blocks and functions around others.  A bracket that is
never closed is closed by the end of the text; one that was never opened stays a token.
-/

namespace StylePrune

namespace Css

/-- A token, a block in brackets or a function with its arguments. -/
inductive Component
  | token (t : Token) (text : List Char)
  | block (kind : Bracket) (items : List Component) (closed : Bool)
  | function (name : String) (text : List Char) (items : List Component) (closed : Bool)

namespace Component

mutual

/-- The text that a component was read from. -/
def source : Component → List Char
  | token _ text => text
  | block kind items closed =>
      kind.opening :: sourceList items ++ (if closed then [kind.closing] else [])
  | function _ text items closed => text ++ sourceList items ++ (if closed then [')'] else [])

def sourceList : List Component → List Char
  | [] => []
  | c :: rest => source c ++ sourceList rest

end

mutual

/-- No token inside is unreadable or closes a bracket that is not open. -/
def isSound : Component → Bool
  | token t _ =>
      match t with
      | .badUrl | .badString | .closing _ => false
      | _ => true
  | block _ items _ => isSoundList items
  | function _ _ items _ => isSoundList items

def isSoundList : List Component → Bool
  | [] => true
  | c :: rest => isSound c && isSoundList rest

end

/-- What opened a bracket. -/
inductive Opening
  | block (kind : Bracket)
  | function (name : String) (text : List Char)

namespace Opening

def bracket : Opening → Bracket
  | block kind => kind
  | function _ _ => .round

def close (o : Opening) (items : List Component) (closed : Bool) : Component :=
  match o with
  | block kind => .block kind items closed
  | function name text => .function name text items closed

end Opening

/-- An open bracket and the components before it, the last one first. -/
structure Level where
  opening : Opening
  before : List Component

/-- The open brackets, the innermost first, and the components after the innermost one. -/
structure Nesting where
  levels : List Level
  items : List Component

namespace Nesting

def push (n : Nesting) (c : Component) : Nesting :=
  { n with items := c :: n.items }

def enter (n : Nesting) (o : Opening) : Nesting :=
  ⟨⟨o, n.items⟩ :: n.levels, []⟩

def leave (n : Nesting) (closed : Bool) : Nesting :=
  match n.levels with
  | [] => n
  | level :: levels => ⟨levels, level.opening.close n.items.reverse closed :: level.before⟩

def isInside (n : Nesting) (b : Bracket) : Bool :=
  match n.levels with
  | [] => false
  | level :: _ => level.opening.bracket == b

def add (n : Nesting) (x : Lexeme) : Nesting :=
  match x.token with
  | .function name => n.enter (.function name x.text)
  | .opening b => n.enter (.block b)
  | .closing b => if n.isInside b then n.leave true else n.push (.token x.token x.text)
  | t => n.push (.token t x.text)

def finish (n : Nesting) : List Component :=
  (n.levels.foldl (fun n _ => n.leave false) n).items.reverse

end Nesting

def ofLexemes (xs : List Lexeme) : List Component :=
  (xs.foldl Nesting.add ⟨[], []⟩).finish

def ofText (s : List Char) : List Component :=
  ofLexemes (Lexer.tokens s)

/-- White space or a comment. -/
def isBlank : Component → Bool
  | token .space _ => true
  | token .comment _ => true
  | _ => false

def isComment : Component → Bool
  | token .comment _ => true
  | _ => false

def isComma : Component → Bool
  | token .comma _ => true
  | _ => false

def isSemicolon : Component → Bool
  | token .semicolon _ => true
  | _ => false

def isDelim (c : Char) : Component → Bool
  | token (.delim d) _ => c == d
  | _ => false

def isCurly : Component → Bool
  | block .curly _ _ => true
  | _ => false

def splitCommas : List Component → List (List Component)
  | [] => [[]]
  | c :: rest =>
      if c.isComma then [] :: splitCommas rest
      else
        match splitCommas rest with
        | [] => [[c]]
        | first :: more => (c :: first) :: more

/-- The number of components at all depths. -/
def weight : List Component → Nat
  | [] => 0
  | c :: rest => weightOf c + weight rest
where
  weightOf : Component → Nat
    | token _ _ => 1
    | block _ items _ => weight items + 1
    | function _ _ items _ => weight items + 1

end Component

end Css

end StylePrune
