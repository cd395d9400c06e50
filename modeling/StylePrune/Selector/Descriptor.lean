import StylePrune.Selector.Bracket
import StylePrune.Selector.Name

/-!
# Descriptors of selectors

The classes, ids, tags and attribute names that a selector without commas mentions.
Five passes read them, each working on what the one before it left: pseudo-classes go
with their arguments, attribute selectors leave their names, then classes, then ids, and
the runs of name characters that remain are tags.
-/

namespace StylePrune

namespace Selector

open Text

/-- What a selector mentions, in the order of the text. -/
structure Descriptor where
  /-- The text of the selector without blanks at its ends. -/
  selector : String
  classes : List String
  ids : List String
  tags : List String
  /-- The names of its attribute selectors. -/
  attrs : List String
  deriving BEq, DecidableEq, Inhabited, Repr

namespace Descriptor

def hasMarkupRefs (d : Descriptor) : Bool :=
  !d.classes.isEmpty || !d.ids.isEmpty || !d.tags.isEmpty

def attributeOnly (d : Descriptor) : Bool :=
  !d.attrs.isEmpty && !d.hasMarkupRefs

end Descriptor

inductive Fault
  | unbalancedParenthesis
  | unbalancedBracket
  | namelessAttribute
  deriving BEq, DecidableEq, Repr

namespace Fault

def message : Fault → String
  | unbalancedParenthesis => "unbalanced parenthesis"
  | unbalancedBracket => "unbalanced attribute bracket"
  | namelessAttribute => "attribute selector without a name"

end Fault

/-- A selector that cannot be decomposed, with the reason. -/
structure DecomposeError where
  selector : String
  fault : Fault
  deriving BEq, DecidableEq, Repr

def DecomposeError.message (e : DecomposeError) : String :=
  "cannot decompose selector \x60" ++ e.selector ++ "\x60: " ++ e.fault.message

def dropColon : List Char → List Char
  | ':' :: rest => rest
  | s => s

theorem length_dropColon_le (s : List Char) : (dropColon s).length ≤ s.length := by
  fun_cases dropColon s <;> simp

theorem length_dropWhile_le (p : Char → Bool) (s : List Char) :
    (s.dropWhile p).length ≤ s.length := by
  induction s with
  | nil => simp
  | cons c rest ih =>
      simp only [List.dropWhile_cons]
      split
      · simp only [List.length_cons]
        omega
      · simp

/-- The text after the name of a pseudo-class, where `s` is the text after the colon. -/
def dropPseudoName (s : List Char) : List Char :=
  (dropColon s).dropWhile isNameChar

theorem length_dropPseudoName_le (s : List Char) : (dropPseudoName s).length ≤ s.length :=
  Nat.le_trans (length_dropWhile_le _ _) (length_dropColon_le s)

/-- A name character follows the colon or the two colons. -/
def startsPseudo (s : List Char) : Bool :=
  ((dropColon s).head?.map isNameChar).getD false

/-- Removes pseudo-classes and pseudo-elements together with their arguments. -/
def withoutPseudo (s : List Char) : Except Fault (List Char) :=
  match s with
  | [] => .ok []
  | ['\\'] => .ok ['\\']
  | '\\' :: c :: rest => do return '\\' :: c :: (← withoutPseudo rest)
  | c :: rest =>
      if c = ':' ∧ startsPseudo rest then
        match _h : dropPseudoName rest with
        | '(' :: argument =>
            match _h' : splitClosing? '(' ')' argument with
            | some (_, after) => withoutPseudo after
            | none => .error .unbalancedParenthesis
        | after => withoutPseudo after
      else do return c :: (← withoutPseudo rest)
termination_by s.length
decreasing_by
  · simp only [List.length_cons]
    omega
  · have h1 := length_splitClosing?_lt _h'
    have h2 := length_dropPseudoName_le rest
    rw [_h] at h2
    simp only [List.length_cons] at h2 ⊢
    omega
  · have h2 := length_dropPseudoName_le rest
    rw [_h] at h2
    simp only [List.length_cons]
    omega
  · simp

def isAttrNameChar (c : Char) : Bool :=
  isNameChar c || c == ':' || c == '|'

def attrName (inside : List Char) : List Char :=
  (dropBlanks inside).takeWhile isAttrNameChar

/-- The names of the attribute selectors, and the text without these. -/
def takeAttributes (s : List Char) : Except Fault (List (List Char) × List Char) :=
  match s with
  | [] => .ok ([], [])
  | ['\\'] => .ok ([], ['\\'])
  | '\\' :: c :: rest => do
      let (names, left) ← takeAttributes rest
      return (names, '\\' :: c :: left)
  | c :: rest =>
      if c = '[' then
        match _h : splitClosing? '[' ']' rest with
        | none => .error .unbalancedBracket
        | some (inside, after) =>
            if attrName inside = [] then .error .namelessAttribute
            else do
              let (names, left) ← takeAttributes after
              return (attrName inside :: names, left)
      else do
        let (names, left) ← takeAttributes rest
        return (names, c :: left)
termination_by s.length
decreasing_by
  · simp only [List.length_cons]
    omega
  · have := length_splitClosing?_lt _h
    simp only [List.length_cons]
    omega
  · simp

/-- The names written after `sigil`, with escapes resolved, and the text without these. -/
def takePrefixed (sigil : Char) (s : List Char) : List (List Char) × List Char :=
  match s with
  | [] => ([], [])
  | ['\\'] => ([], ['\\'])
  | '\\' :: c :: rest =>
      let r := takePrefixed sigil rest
      (r.1, '\\' :: c :: r.2)
  | c :: rest =>
      if c = sigil then
        if _h : (readName rest).1 = [] then
          let r := takePrefixed sigil rest
          (r.1, c :: r.2)
        else
          let name := (readName rest).1
          let r := takePrefixed sigil (readName rest).2
          (name :: r.1, r.2)
      else
        let r := takePrefixed sigil rest
        (r.1, c :: r.2)
termination_by s.length
decreasing_by
  · simp only [List.length_cons]
    omega
  · simp
  · have := length_readName_lt _h
    simp only [List.length_cons]
    omega
  · simp

/-- The maximal runs of name characters; an escape is no part of one. -/
def tagRuns (current : List Char) : List Char → List (List Char)
  | [] => if current.isEmpty then [] else [current.reverse]
  | ['\\'] => if current.isEmpty then [] else [current.reverse]
  | '\\' :: _ :: rest => tagRuns current rest
  | c :: rest =>
      if isNameChar c then tagRuns (c :: current) rest
      else if current.isEmpty then tagRuns [] rest
      else current.reverse :: tagRuns [] rest

/-- The names that a selector mentions, by kind. -/
structure Names where
  classes : List (List Char)
  ids : List (List Char)
  tags : List (List Char)
  attrs : List (List Char)
  deriving BEq, DecidableEq, Repr

/-- The five passes. -/
def namesOf (s : List Char) : Except Fault Names := do
  let plain ← withoutPseudo s
  let (attrs, plain) ← takeAttributes plain
  let (classes, plain) := takePrefixed '.' plain
  let (ids, plain) := takePrefixed '#' plain
  return { classes, ids, tags := tagRuns [] plain, attrs }

def decompose (selector : String) : Except DecomposeError Descriptor :=
  let text := trim selector.toList
  match namesOf text with
  | .ok names =>
      .ok {
        selector := String.ofList text
        classes := names.classes.map String.ofList
        ids := names.ids.map String.ofList
        tags := names.tags.map String.ofList
        attrs := names.attrs.map String.ofList }
  | .error fault => .error { selector := String.ofList text, fault }

/-- The descriptors of some selectors, unless one of them cannot be decomposed. -/
def describe? (selectors : List String) : Option (List Descriptor) :=
  selectors.mapM fun s => (decompose s).toOption

end Selector

end StylePrune
