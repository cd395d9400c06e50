import StylePrune.Proofs.Selector.Balance

/-!
# Canonical selectors

Selectors without commas in the form in which stylesheets print them: compounds and the
combinators between them.  Each part has a text, and a selector mentions the names of its
parts in the order of the text.
-/

namespace StylePrune

namespace Selector

open Text

/-- The name of an element type or of an attribute, which is written as it is. -/
structure Word where
  chars : List Char
  ne_nil : chars ≠ [] := by decide
  isName : ∀ c ∈ chars, isNameChar c = true := by simp; decide
  notBlank : ∀ c ∈ chars, isBlank c = false := by simp; decide

/-- A class or an id: any characters but blanks and NUL. -/
structure Label where
  chars : List Char
  ne_nil : chars ≠ [] := by decide
  notBlank : ∀ c ∈ chars, isBlank c = false := by simp; decide
  notNul : ∀ c ∈ chars, c.toNat ≠ 0 := by simp

/-- The name of a pseudo-class or a pseudo-element, possibly with blanks outside ASCII. -/
structure PseudoName where
  chars : List Char
  ne_nil : chars ≠ [] := by decide
  isName : ∀ c ∈ chars, isNameChar c = true := by simp; decide

/-- What stands between the parentheses after a pseudo-class. -/
structure Argument where
  chars : List Char
  balanced : Balanced '(' ')' chars

inductive Operator
  | equals
  | hasWord
  | startsWith
  | endsWith
  | contains
  deriving DecidableEq, Repr

def Operator.print : Operator → List Char
  | equals => ['=']
  | hasWord => ['~', '=']
  | startsWith => ['^', '=']
  | endsWith => ['$', '=']
  | contains => ['*', '=']

/-- The condition of an attribute selector on the value, with the spaces around its operator. -/
structure Comparison where
  operator : Operator
  value : List Char
  noParenthesis : '(' ∉ value := by decide
  before : Nat := 0
  after : Nat := 0

def quotedChar (c : Char) : List Char :=
  if c = '"' ∨ c = '\\' then ['\\', c] else [c]

def quoted (s : List Char) : List Char :=
  '"' :: (s.flatMap quotedChar ++ ['"'])

namespace Comparison

/-- The operator with the spaces around it. -/
def front (t : Comparison) : List Char :=
  List.replicate t.before ' ' ++ t.operator.print ++ List.replicate t.after ' '

def print (t : Comparison) : List Char :=
  t.front ++ quoted t.value

end Comparison

/-- A part of a compound behind the name of the element type. -/
inductive Part
  | cls (name : Label)
  | id (name : Label)
  | attr (name : Word) (comparison : Option Comparison)
  /-- A pseudo-class, or a pseudo-element with two colons. -/
  | pseudo (double : Bool) (name : PseudoName) (argument : Option Argument)

def colons (double : Bool) : List Char :=
  if double then [':', ':'] else [':']

namespace Part

def print : Part → List Char
  | cls name => '.' :: serializeName name.chars
  | id name => '#' :: serializeName name.chars
  | attr name none => '[' :: (name.chars ++ [']'])
  | attr name (some comparison) => '[' :: (name.chars ++ (comparison.print ++ [']']))
  | pseudo double name none => colons double ++ name.chars
  | pseudo double name (some argument) =>
      colons double ++ (name.chars ++ '(' :: (argument.chars ++ [')']))

def class? : Part → Option (List Char)
  | cls name => some name.chars
  | _ => none

def id? : Part → Option (List Char)
  | id name => some name.chars
  | _ => none

def attr? : Part → Option (List Char)
  | attr name _ => some name.chars
  | _ => none

end Part

inductive Head
  | nothing
  | universal
  | tag (name : Word)

namespace Head

def print : Head → List Char
  | nothing => []
  | universal => ['*']
  | tag name => name.chars

def tag? : Head → Option (List Char)
  | tag name => some name.chars
  | _ => none

end Head

structure Compound where
  head : Head
  parts : List Part

namespace Compound

def print (c : Compound) : List Char :=
  c.head.print ++ c.parts.flatMap Part.print

end Compound

inductive Combinator
  | descendant
  | child
  | next
  | later
  deriving DecidableEq, Repr

def Combinator.print : Combinator → List Char
  | descendant => [' ']
  | child => [' ', '>', ' ']
  | next => [' ', '+', ' ']
  | later => [' ', '~', ' ']

/-- A selector: one compound or more. -/
structure Canonical where
  first : Compound
  rest : List (Combinator × Compound)

namespace Canonical

def print (sel : Canonical) : List Char :=
  sel.first.print ++ sel.rest.flatMap fun (k, c) => k.print ++ c.print

def text (sel : Canonical) : String :=
  String.ofList sel.print

def compounds (sel : Canonical) : List Compound :=
  sel.first :: sel.rest.map Prod.snd

end Canonical

namespace Names

def empty : Names :=
  ⟨[], [], [], []⟩

def append (m n : Names) : Names :=
  ⟨m.classes ++ n.classes, m.ids ++ n.ids, m.tags ++ n.tags, m.attrs ++ n.attrs⟩

@[simp] theorem append_empty (n : Names) : n.append empty = n := by
  simp [append, empty]

@[simp] theorem empty_append (n : Names) : empty.append n = n := by
  simp [append, empty]

theorem append_assoc (l m n : Names) : (l.append m).append n = l.append (m.append n) := by
  simp [append]

def ofPart (p : Part) : Names :=
  ⟨p.class?.toList, p.id?.toList, [], p.attr?.toList⟩

def ofParts (ps : List Part) : Names :=
  ⟨ps.filterMap Part.class?, ps.filterMap Part.id?, [], ps.filterMap Part.attr?⟩

@[simp] theorem ofParts_nil : ofParts [] = empty := rfl

theorem ofParts_cons (p : Part) (ps : List Part) :
    ofParts (p :: ps) = (ofPart p).append (ofParts ps) := by
  cases p <;> rfl

def ofCompound (c : Compound) : Names :=
  { ofParts c.parts with tags := c.head.tag?.toList }

def ofCompounds (cs : List Compound) : Names where
  classes := cs.flatMap fun c => (ofCompound c).classes
  ids := cs.flatMap fun c => (ofCompound c).ids
  tags := cs.flatMap fun c => (ofCompound c).tags
  attrs := cs.flatMap fun c => (ofCompound c).attrs

@[simp] theorem ofCompounds_nil : ofCompounds [] = empty := rfl

theorem ofCompounds_cons (c : Compound) (cs : List Compound) :
    ofCompounds (c :: cs) = (ofCompound c).append (ofCompounds cs) := rfl

end Names

def Canonical.names (sel : Canonical) : Names :=
  .ofCompounds sel.compounds

end Selector

end StylePrune
