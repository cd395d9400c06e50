import StylePrune.Proofs.Selector.Letter
import StylePrune.Proofs.Selector.Value

/-!
# Written selectors

Selectors without commas as they may be written: compounds and the combinators between them,
with any white space around these, attribute selectors that compare with any value, and the
names of classes and ids in some form.  What a part mentions is read off the part; how it is
read can depend on what is written behind it.
-/

namespace StylePrune

namespace Selector

open Text

/-! ## Names -/

/-- A way to write the names of classes and ids. -/
class NameForm (N : Type) where
  print : N → List Char
  /-- The name that is written. -/
  chars : N → List Char
  /-- The text ends in an escape that only the next character ends. -/
  isOpen : N → Bool
  /-- The text ends in a blank that stands for itself. -/
  endsInBlank : N → Bool
  /-- In front of this text the escapes are read as they are written. -/
  IsRead : N → List Char → Prop
  chars_ne_nil : ∀ n, chars n ≠ []
  avoids : ∀ n {x}, isNameChar x = false → isBlank x = false → Avoids x (print n)
  avoids_trimEnd : ∀ {n}, endsInBlank n = false →
    ∀ {x}, isNameChar x = false → isBlank x = false → Avoids x (trimEnd (print n))
  readName_append : ∀ {n s t}, IsRead n s → IsApart t →
    (isOpen n = true → ∀ c ∈ t.head?, isBlank c = false) → readName (print n ++ t) = (chars n, t)
  /-- A blank behind an open name is read with it. -/
  readName_append_blank : ∀ {n s}, IsRead n s → isOpen n = true → ∀ {b}, isBlank b = true →
    ∀ {t}, IsApart t → readName (print n ++ b :: t) = (chars n, t)
  readName_trimEnd : ∀ {n s}, IsRead n s → endsInBlank n = false →
    readName (trimEnd (print n)) = (chars n, [])

/-- Names as stylesheets print them. -/
instance : NameForm Label where
  print n := serializeName n.chars
  chars := Label.chars
  isOpen _ := false
  endsInBlank _ := false
  IsRead _ _ := True
  chars_ne_nil := Label.ne_nil
  avoids n _ := n.spells.avoids
  avoids_trimEnd {n} _ _ := n.avoids_trimEnd
  readName_append {n _ _} _ ht _ := n.spells.readName_append_of_isApart ht
  readName_append_blank _ hopen := by cases hopen
  readName_trimEnd {n _} _ _ := n.spells.readName_trimEnd n.notBlank

/-- Names in any spelling. -/
instance : NameForm Spelling where
  print := Spelling.print
  chars := Spelling.name
  isOpen := Spelling.isOpen
  endsInBlank := Spelling.endsInBlank
  IsRead := Spelling.IsRead
  chars_ne_nil := Spelling.name_ne_nil
  avoids n _ := n.avoids
  avoids_trimEnd := Spelling.avoids_trimEnd
  readName_append h ht hopen := h.readName_append ht hopen
  readName_append_blank h hopen _ hb _ ht := h.readName_append_blank hopen hb ht
  readName_trimEnd h hend := h.readName_trimEnd hend

/-! ## Attribute selectors -/

inductive Comparator
  | equals
  | hasWord
  /-- The value, or the value and a hyphen in front. -/
  | hyphened
  | startsWith
  | endsWith
  | contains
  deriving DecidableEq, Repr

def Comparator.print : Comparator → List Char
  | equals => ['=']
  | hasWord => ['~', '=']
  | hyphened => ['|', '=']
  | startsWith => ['^', '=']
  | endsWith => ['$', '=']
  | contains => ['*', '=']

def printSpaces (bs : List Space) : List Char :=
  bs.map Space.char

/-- The condition of an attribute selector on the value, with the spaces around its operator. -/
structure Condition where
  comparator : Comparator
  value : List Char
  before : List Space := []
  after : List Space := []

namespace Condition

def front (t : Condition) : List Char :=
  printSpaces t.before ++ t.comparator.print ++ printSpaces t.after

def print (t : Condition) : List Char :=
  t.front ++ quoted t.value

/-- The bar of an operator stands directly behind the name. -/
def isGlued (t : Condition) : Bool :=
  t.comparator = .hyphened ∧ t.before = []

/-- What is taken for the name of the attribute. -/
def taken (name : List Char) (t : Condition) : List Char :=
  if t.isGlued then name ++ ['|'] else name

end Condition

/-! ## Parts and compounds -/

section

variable {N : Type}

/-- A part of a compound behind the name of the element type. -/
inductive WrittenPart (N : Type)
  | cls (name : N)
  | id (name : N)
  | attr (name : Word) (condition : Option Condition)
  /-- A pseudo-class, or a pseudo-element with two colons. -/
  | pseudo (double : Bool) (name : PseudoName) (argument : Option Argument)

namespace WrittenPart

def class? : WrittenPart N → Option N
  | cls name => some name
  | _ => none

def id? : WrittenPart N → Option N
  | id name => some name
  | _ => none

def name? : WrittenPart N → Option N
  | cls name => some name
  | id name => some name
  | _ => none

def attr? : WrittenPart N → Option (Word × Option Condition)
  | attr name condition => some (name, condition)
  | _ => none

def condition? : WrittenPart N → Option Condition
  | attr _ condition => condition
  | _ => none

variable [NameForm N]

def print : WrittenPart N → List Char
  | cls name => '.' :: NameForm.print name
  | id name => '#' :: NameForm.print name
  | attr name none => '[' :: (name.chars ++ [']'])
  | attr name (some condition) => '[' :: (name.chars ++ (condition.print ++ [']']))
  | pseudo double name none => colons double ++ name.chars
  | pseudo double name (some argument) =>
      colons double ++ (name.chars ++ '(' :: (argument.chars ++ [')']))

end WrittenPart

/-- What is taken for the name of an attribute in front of its condition. -/
def takenAttr : Word × Option Condition → List Char
  | (name, none) => name.chars
  | (name, some condition) => condition.taken name.chars

/-- A pass that meets these parts, or else the text behind them, meets no blank first. -/
def MeetsNoBlank (meets : WrittenPart N → Bool) (ps : List (WrittenPart N)) (s : List Char) :
    Prop :=
  (∃ p ∈ ps, meets p = true) ∨ ∀ c ∈ s.head?, isBlank c = false

instance (meets : WrittenPart N → Bool) (ps : List (WrittenPart N)) (s : List Char) :
    Decidable (MeetsNoBlank meets ps s) :=
  decidable_of_iff (ps.any meets = true ∨ (s.head?.all fun c => !isBlank c) = true) (by
    simp [MeetsNoBlank, Option.all_eq_true])

theorem MeetsNoBlank.of_cons {meets : WrittenPart N → Bool} {p : WrittenPart N}
    {ps : List (WrittenPart N)} {s : List Char} (h : MeetsNoBlank meets (p :: ps) s)
    (hp : meets p = false) : MeetsNoBlank meets ps s := by
  rcases h with ⟨q, hq, hmeets⟩ | hs
  · rcases List.mem_cons.mp hq with rfl | hq
    · rw [hp] at hmeets
      cases hmeets
    · exact .inl ⟨q, hq, hmeets⟩
  · exact .inr hs

structure WrittenCompound (N : Type) where
  head : Head
  parts : List (WrittenPart N)

inductive Sign
  | child
  | next
  | later
  deriving DecidableEq, Repr

def Sign.char : Sign → Char
  | child => '>'
  | next => '+'
  | later => '~'

/-- A combinator with the white space around it. -/
inductive Joint
  | descendant (first : Space) (more : List Space)
  | signed (before : List Space) (sign : Sign) (after : List Space)

def Joint.print : Joint → List Char
  | descendant first more => printSpaces (first :: more)
  | signed before sign after => printSpaces before ++ sign.char :: printSpaces after

/-- A selector: one compound or more. -/
structure Written (N : Type) where
  first : WrittenCompound N
  rest : List (Joint × WrittenCompound N)

namespace Written

def compounds (sel : Written N) : List (WrittenCompound N) :=
  sel.first :: sel.rest.map Prod.snd

def parts (sel : Written N) : List (WrittenPart N) :=
  sel.compounds.flatMap WrittenCompound.parts

end Written

/-! ## Spots -/

/-- A part of a selector, the parts behind it in its compound, and the text after this. -/
structure Spot (N : Type) where
  part : WrittenPart N
  behind : List (WrittenPart N)
  after : List Char

def spotsOf : List (WrittenPart N) → List Char → List (Spot N)
  | [], _ => []
  | p :: ps, s => ⟨p, ps, s⟩ :: spotsOf ps s

theorem map_part_spotsOf (ps : List (WrittenPart N)) (s : List Char) :
    (spotsOf ps s).map Spot.part = ps := by
  induction ps with
  | nil => rfl
  | cons p rest ih => rw [spotsOf, List.map_cons, ih]

variable [NameForm N]

def WrittenCompound.print (c : WrittenCompound N) : List Char :=
  c.head.print ++ c.parts.flatMap WrittenPart.print

namespace Written

def print (sel : Written N) : List Char :=
  sel.first.print ++ sel.rest.flatMap fun (j, c) => j.print ++ c.print

def text (sel : Written N) : String :=
  String.ofList sel.print

end Written

/-! ## Names that a selector mentions -/

def WrittenPart.names (p : WrittenPart N) : Names where
  classes := (p.class?.map NameForm.chars).toList
  ids := (p.id?.map NameForm.chars).toList
  tags := []
  attrs := (p.attr?.map takenAttr).toList

def namesOfParts (ps : List (WrittenPart N)) : Names where
  classes := ps.filterMap fun p => p.class?.map NameForm.chars
  ids := ps.filterMap fun p => p.id?.map NameForm.chars
  tags := []
  attrs := ps.filterMap fun p => p.attr?.map takenAttr

def WrittenCompound.names (c : WrittenCompound N) : Names :=
  { namesOfParts c.parts with tags := c.head.tag?.toList }

def Written.names (sel : Written N) : Names where
  classes := sel.compounds.flatMap fun c => c.names.classes
  ids := sel.compounds.flatMap fun c => c.names.ids
  tags := sel.compounds.flatMap fun c => c.names.tags
  attrs := sel.compounds.flatMap fun c => c.names.attrs

theorem namesOfParts_cons (p : WrittenPart N) (ps : List (WrittenPart N)) :
    namesOfParts (p :: ps) = p.names.append (namesOfParts ps) := by
  cases p <;> rfl

namespace Written

theorem print_cons (first c : WrittenCompound N) (j : Joint)
    (rest : List (Joint × WrittenCompound N)) :
    (Written.mk first ((j, c) :: rest)).print =
      first.print ++ (j.print ++ (Written.mk c rest).print) := by
  simp [print]

theorem names_cons (first c : WrittenCompound N) (j : Joint)
    (rest : List (Joint × WrittenCompound N)) :
    (Written.mk first ((j, c) :: rest)).names =
      first.names.append (Written.mk c rest).names := rfl

theorem names_classes (sel : Written N) :
    sel.names.classes = sel.parts.filterMap fun p => p.class?.map NameForm.chars := by
  simp only [names, WrittenCompound.names, namesOfParts, parts, List.filterMap_flatMap]

theorem names_ids (sel : Written N) :
    sel.names.ids = sel.parts.filterMap fun p => p.id?.map NameForm.chars := by
  simp only [names, WrittenCompound.names, namesOfParts, parts, List.filterMap_flatMap]

theorem names_attrs (sel : Written N) :
    sel.names.attrs = sel.parts.filterMap fun p => p.attr?.map takenAttr := by
  simp only [names, WrittenCompound.names, namesOfParts, parts, List.filterMap_flatMap]

theorem names_singleton (first : WrittenCompound N) :
    (Written.mk first []).names = first.names := by
  simp [names, compounds]

end Written

/-! ## The text behind a part -/

def Spot.rest (x : Spot N) : List Char :=
  x.behind.flatMap WrittenPart.print ++ x.after

def spotsFrom (first : WrittenCompound N) : List (Joint × WrittenCompound N) → List (Spot N)
  | [] => spotsOf first.parts []
  | (j, c) :: rest =>
      spotsOf first.parts (j.print ++ (Written.mk c rest).print) ++ spotsFrom c rest

def Written.spots (sel : Written N) : List (Spot N) :=
  spotsFrom sel.first sel.rest

/-- Each part has one spot. -/
theorem Written.map_part_spots (sel : Written N) : sel.spots.map Spot.part = sel.parts := by
  obtain ⟨first, rest⟩ := sel
  induction rest generalizing first with
  | nil => simp [spots, spotsFrom, map_part_spotsOf, parts, compounds]
  | cons jc rest ih =>
      have hrest : (spotsFrom jc.2 rest).map Spot.part = (Written.mk jc.2 rest).parts := ih jc.2
      rw [spots, spotsFrom, List.map_append, map_part_spotsOf, hrest]
      rfl

theorem Written.part_mem_of_mem_spots {sel : Written N} {x : Spot N} (h : x ∈ sel.spots) :
    x.part ∈ sel.parts :=
  sel.map_part_spots ▸ List.mem_map_of_mem h

/-- Behind its first blank, if it starts with one, the text continues no name. -/
def SplitsBehindBlank (s : List Char) : Prop :=
  IsApart (dropOneBlank s)

instance (s : List Char) : Decidable (SplitsBehindBlank s) :=
  inferInstanceAs (Decidable (IsApart _))

/-- No class among these parts is open. -/
def ClosesClasses (ps : List (WrittenPart N)) : Prop :=
  ∀ p ∈ ps, ∀ n ∈ p.class?, NameForm.isOpen n = false

instance (ps : List (WrittenPart N)) : Decidable (ClosesClasses ps) :=
  inferInstanceAs (Decidable (∀ p ∈ ps, ∀ n ∈ p.class?, NameForm.isOpen n = false))

/-- What is written behind a part does not change how the part is read. -/
structure Spot.IsSettled (x : Spot N) : Prop where
  /-- The brackets that the first pass opens in a value close there. -/
  tame : ∀ t ∈ x.part.condition?, IsTame t.value
  isRead : ∀ n ∈ x.part.name?, NameForm.IsRead n x.rest
  /-- Trimming takes no blank of the name. -/
  ended : ∀ n ∈ x.part.name?, trimEnd x.rest = [] → NameForm.endsInBlank n = false
  /-- The blank that the pass for classes meets behind an open class is not needed. -/
  openClass : ∀ n ∈ x.part.class?, NameForm.isOpen n = true →
    MeetsNoBlank (fun p => p.name?.isSome) x.behind x.after ∨ SplitsBehindBlank x.after
  /-- The blank that the pass for ids meets behind an open id is not needed. -/
  openId : ∀ n ∈ x.part.id?, NameForm.isOpen n = true →
    MeetsNoBlank (fun p => p.id?.isSome) x.behind x.after ∨
      ClosesClasses x.behind ∧ SplitsBehindBlank x.after

/-- No part of the selector is read in another way because of what is written behind it. -/
def Written.IsSettled (sel : Written N) : Prop :=
  ∀ x ∈ sel.spots, x.IsSettled

end

end Selector

end StylePrune
