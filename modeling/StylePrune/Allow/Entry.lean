import StylePrune.Json.Value

/-!
# Entries of allow lists

What is kept regardless of the markup, as it is configured: search terms, a pattern or a
class, for one stylesheet or for all.
-/

namespace StylePrune

namespace Allow

/-- What an entry admits. -/
inductive Kind
  /-- Selectors whose text matches. -/
  | any
  /-- Selectors whose text matches, while the class of the entry is used. -/
  | whileUsed
  /-- Selectors that start with the class of the entry. -/
  | leading
  deriving BEq, DecidableEq, Repr

namespace Kind

def word : Kind → String
  | any => "any"
  | whileUsed => "class"
  | leading => "prefix"

def ofWord? (s : String) : Option Kind :=
  if s = "any" then some any
  else if s = "class" then some whileUsed
  else if s = "prefix" then some leading
  else none

@[simp] theorem ofWord?_word (k : Kind) : ofWord? k.word = some k := by
  cases k <;> rfl

end Kind

structure Entry where
  kind : Kind
  /-- Literal terms; one that contains `*` is a glob. -/
  search : List String
  /-- A pattern that is used as it is. -/
  searchPattern : Option String
  /-- The class of an entry that is tied to one. -/
  className : Option String
  /-- The stylesheet that the entry is for: its id, or a part of its URL. -/
  sheet : Option String
  deriving BEq, DecidableEq, Repr

namespace Entry

/-- The entry that matches nothing. -/
def blank : Entry :=
  ⟨.any, [], none, none, none⟩

instance : Inhabited Entry :=
  ⟨blank⟩

def any (search : List String) : Entry :=
  { blank with search }

def whileUsed (className : String) (search : List String) : Entry :=
  { blank with kind := .whileUsed, className := some className, search }

def leading (className : String) : Entry :=
  { blank with kind := .leading, className := some className }

def pattern (source : String) : Entry :=
  { blank with searchPattern := some source }

def forSheet (e : Entry) (sheet : String) : Entry :=
  { e with sheet := some sheet }

/-- The layout and state selectors that most themes rely on. -/
def criticalTerms : List String := [
  "body", "html", "*", ":root", ".container", ".wrapper", ".row", ".header",
  ".footer", ".content", ".navigation", ".menu", ".nav", ".button", ".btn",
  ".sidebar", ".widget", ".post", ".page", ".entry", ".article", ".main",
  ".site-header", ".site-footer", ".site-content", ".site-main", "[class*=\"wp-\"]",
  "[class*=\"menu\"]", ".current-", ".active", ".selected", ".show", ".hide",
  ".hidden", ".visible", ".invisible", ".collapse", ".expand", ".open", ".close",
  ".dropdown", ".modal", ".fade", ".slide", "@media", "@keyframes", "@font-face"]

def criticalDefaults : List Entry :=
  criticalTerms.map fun term => any [term]

/-- The keys of an entry in the order of an entry that is written as an array. -/
def keys : List String :=
  ["type", "search", "search_regex", "class", "sheet"]

open Json (Value)

/-- A kind is its word, or an object with the word as its only key and no value. -/
def kindOf? : Value → Option Kind
  | .string (some s) => Kind.ofWord? s
  | .object [(key, .null)] => Kind.ofWord? key
  | _ => none

/-- Search terms are one string or an array of strings. -/
def searchOf? : Value → Option (List String)
  | .string (some s) => some [s]
  | .array items => Value.texts? items
  | _ => none

/-- An optional string is a string or `null`. -/
def optionOf? : Value → Option (Option String)
  | .null => some none
  | .string (some s) => some (some s)
  | _ => none

/-- The value of a field that may be missing; a repeated field has none. -/
def field? {α : Type} (default : α) (read : Value → Option α) : List Value → Option α
  | [] => some default
  | [v] => read v
  | _ => none

def ofFields? (fields : String → List Value) : Option Entry := do
  return {
    kind := ← field? .any kindOf? (fields "type")
    search := ← field? [] searchOf? (fields "search")
    searchPattern := ← field? none optionOf? (fields "search_regex")
    className := ← field? none optionOf? (fields "class")
    sheet := ← field? none optionOf? (fields "sheet") }

def ofValue? : Value → Option Entry
  | .object fields => ofFields? fun key => Value.members key fields
  | .array items =>
      if items.length ≤ keys.length then
        ofFields? fun key => Value.members key (keys.zip items)
      else none
  | _ => none

def listOfValue? : Value → Option (List Entry)
  | .array items => items.mapM ofValue?
  | _ => none

end Entry

end Allow

end StylePrune
