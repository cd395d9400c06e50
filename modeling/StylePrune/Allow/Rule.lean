import StylePrune.Allow.Entry
import StylePrune.Allow.Term
import StylePrune.Text.Occurrence

/-!
# Rules of allow lists

Entries that apply to one stylesheet, with their search terms read as patterns.
-/

namespace StylePrune

namespace Allow

open Text Pattern

/-- A pattern with the text it was read from. -/
structure Matcher where
  source : String
  regex : Regex
  deriving BEq, DecidableEq, Repr

/-- An entry that is ready for matching. -/
structure Rule where
  kind : Kind
  className : Option String
  matcher : Option Matcher
  deriving BEq, DecidableEq, Repr

namespace Rule

def isMatch (rule : Rule) (selector : String) : Bool :=
  match rule.matcher with
  | some m => m.regex.isMatch selector
  | none => false

end Rule

/-- A pattern that cannot be read. -/
structure PatternError where
  pattern : String
  deriving BEq, DecidableEq, Repr

def PatternError.message (e : PatternError) : String :=
  "invalid allow pattern \x60" ++ e.pattern ++ "\x60"

namespace Entry

def appliesTo (e : Entry) (id url : String) : Bool :=
  match e.sheet with
  | none => true
  | some scope => scope == id || (scope != "" && occursIn scope.toList url.toList)

/-- An entry that is tied to a class names one. -/
def hasItsClass (e : Entry) : Bool :=
  e.kind == .any || e.className.getD "" != ""

/-- The text of the pattern for the entry, if it has terms. -/
def patternText? (e : Entry) : Option String :=
  (Allow.patternText? e.search e.searchPattern).map String.ofList

end Entry

/--
The engine that matches patterns, as far as a pattern can be too large for it: it makes a
machine from the pattern and refuses one that takes too much space.  The patterns of the
critical entries are small enough.
-/
structure Engine where
  /-- The machine for a pattern, given by its text, is small enough. -/
  fits : String → Bool
  fits_critical : ∀ e ∈ Entry.criticalDefaults, ∀ source, e.patternText? = some source →
    fits source = true

namespace Engine

def unlimited : Engine where
  fits _ := true
  fits_critical _ _ _ _ := rfl

/-- The patterns of the critical entries are short. -/
theorem length_critical_le {e : Entry} (he : e ∈ Entry.criticalDefaults) {source : String}
    (hsource : e.patternText? = some source) : source.length ≤ 64 := by
  have hshort : ∀ e ∈ Entry.criticalDefaults,
      ∀ text ∈ Allow.patternText? e.search e.searchPattern, text.length ≤ 64 := by
    decide +kernel
  obtain ⟨text, htext, rfl⟩ := Option.map_eq_some_iff.mp hsource
  rw [String.length_ofList]
  exact hshort e he text htext

/-- An engine that refuses patterns by the length of their text. -/
def upTo (limit : Nat) (h : 64 ≤ limit) : Engine where
  fits source := source.length ≤ limit
  fits_critical _ he _ hsource :=
    decide_eq_true (Nat.le_trans (length_critical_le he hsource) h)

def regex? (engine : Engine) (source : String) : Option Regex :=
  if engine.fits source then Pattern.parse? source else none

end Engine

namespace Entry

def matcher (engine : Engine) (e : Entry) : Except PatternError (Option Matcher) :=
  match e.patternText? with
  | none => .ok none
  | some source =>
      match engine.regex? source with
      | some regex => .ok (some { source, regex })
      | none => .error ⟨source⟩

def compile (engine : Engine) (e : Entry) : Except PatternError Rule :=
  (e.matcher engine).map fun matcher => { kind := e.kind, className := e.className, matcher }

end Entry

/-- The rules for a stylesheet, in the order of the entries that apply to it. -/
def compile (engine : Engine) (entries : List Entry) (id url : String) :
    Except PatternError (List Rule) :=
  (entries.filter fun e => e.appliesTo id url && e.hasItsClass).mapM (Entry.compile engine)

end Allow

end StylePrune
