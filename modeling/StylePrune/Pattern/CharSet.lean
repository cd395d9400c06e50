import StylePrune.Text.Blank
import StylePrune.Text.CaseFold
import StylePrune.Text.Category
import StylePrune.Text.Script

/-!
# Sets of characters in patterns

Set expressions as a pattern writes them, and membership in them.
-/

namespace StylePrune

namespace Pattern

open Text

/-- A property of characters that a pattern can name. -/
inductive Property
  | category (c : Category)
  | script (s : Script)
  | blank
  | word
  | digit
  | alphabetic
  deriving BEq, DecidableEq, Repr

/-- Letters, and the numbers that are letters by origin. -/
def letterCategories : List Category :=
  [.uppercaseLetter, .lowercaseLetter, .titlecaseLetter, .modifierLetter, .otherLetter,
    .letterNumber]

/-- Circled and squared letters, which are symbols but count as alphabetic. -/
def isLetterSymbol (c : Char) : Bool :=
  let n := c.toNat
  (0x24B6 ≤ n && n ≤ 0x24E9) || (0x1F130 ≤ n && n ≤ 0x1F149) ||
    (0x1F150 ≤ n && n ≤ 0x1F169) || (0x1F170 ≤ n && n ≤ 0x1F189)

def isAlphabetic (c : Char) : Bool :=
  if isAscii c then isAsciiLetter c
  else letterCategories.any (hasCategory c) || isLetterSymbol c

def isDecimal (c : Char) : Bool :=
  if isAscii c then c.isDigit else hasCategory c .decimalNumber

/-- Alphabetic characters, marks, decimal digits, connectors and joiners. -/
def isWord (c : Char) : Bool :=
  if isAscii c then isAsciiAlphanumeric c || c == '_'
  else
    isAlphabetic c || isDecimal c || c.toNat == 0x200C || c.toNat == 0x200D ||
      [Category.nonspacingMark, .spacingMark, .enclosingMark, .connectorPunctuation].any
        (hasCategory c)

def Property.holds (c : Char) : Property → Bool
  | category k => hasCategory c k
  | script s => s.ranges.contains c
  | blank => isBlank c
  | word => isWord c
  | digit => isDecimal c
  | alphabetic => isAlphabetic c

inductive CharSet
  | empty
  | range (first last : Char)
  | property (p : Property)
  /-- All characters that differ from a member in case alone. -/
  | fold (s : CharSet)
  | compl (s : CharSet)
  | union (s t : CharSet)
  | inter (s t : CharSet)
  | diff (s t : CharSet)
  | symmDiff (s t : CharSet)
  deriving BEq, DecidableEq, Repr

namespace CharSet

def single (c : Char) : CharSet :=
  range c c

def any : CharSet :=
  compl empty

def ofList (cs : List Char) : CharSet :=
  cs.foldr (fun c s => union (single c) s) empty

def ofRanges (rs : List (Char × Char)) : CharSet :=
  rs.foldr (fun r s => union (range r.1 r.2) s) empty

def contains : CharSet → Char → Bool
  | empty, _ => false
  | range first last, c => first ≤ c && c ≤ last
  | property p, c => p.holds c
  | fold s, c => (caseVariants c.toNat).any fun n => ((scalar? n).map s.contains).getD false
  | compl s, c => !s.contains c
  | union s t, c => s.contains c || t.contains c
  | inter s t, c => s.contains c && t.contains c
  | diff s t, c => s.contains c && !t.contains c
  | symmDiff s t, c => s.contains c != t.contains c

@[simp] theorem contains_single {c x : Char} : (single c).contains x = true ↔ x = c := by
  simp only [single, contains, Bool.and_eq_true, decide_eq_true_eq]
  constructor
  · rintro ⟨h1, h2⟩
    exact Char.le_antisymm h2 h1
  · rintro rfl
    exact ⟨Char.le_refl _, Char.le_refl _⟩

def complIf (negated : Bool) (s : CharSet) : CharSet :=
  if negated then compl s else s

def foldIf (ignoreCase : Bool) (s : CharSet) : CharSet :=
  if ignoreCase then fold s else s

end CharSet

end Pattern

end StylePrune
