import StylePrune.Markup.Catalog
import StylePrune.Markup.NameSet

/-!
# Profiles of used markup

The classes, tags and ids that are known to exist on a page.
-/

namespace StylePrune

/-- The names that exist in the markup of a page. -/
structure Profile where
  classes : NameSet
  tags : NameSet
  ids : NameSet

namespace Profile

def empty : Profile :=
  ⟨.empty, .empty, .empty⟩

instance : Inhabited Profile :=
  ⟨empty⟩

def withClasses (p : Profile) (names : List String) : Profile :=
  { p with classes := p.classes.insertMany names }

def withTags (p : Profile) (names : List String) : Profile :=
  { p with tags := p.tags.insertMany names }

def withIds (p : Profile) (names : List String) : Profile :=
  { p with ids := p.ids.insertMany names }

def insertClass (p : Profile) (name : String) : Profile :=
  { p with classes := p.classes.insert name }

def insertTag (p : Profile) (name : String) : Profile :=
  { p with tags := p.tags.insert name }

def insertId (p : Profile) (name : String) : Profile :=
  { p with ids := p.ids.insert name }

def merge (p other : Profile) : Profile where
  classes := p.classes.union other.classes
  tags := p.tags.union other.tags
  ids := p.ids.union other.ids

/-- The profile with the classes and tags that the catalog counts as used. -/
def withCatalog (p : Profile) (catalog : Catalog) : Profile :=
  (p.withClasses catalog.classes).withTags catalog.tags

def hasClass (p : Profile) (name : String) : Bool :=
  decide (name ∈ p.classes)

def hasAllClasses (p : Profile) (names : List String) : Bool :=
  p.classes.containsAll names

def hasAllTags (p : Profile) (names : List String) : Bool :=
  p.tags.containsAll names

def hasAllIds (p : Profile) (names : List String) : Bool :=
  p.ids.containsAll names

def isEmpty (p : Profile) : Bool :=
  p.classes.isEmpty && p.tags.isEmpty && p.ids.isEmpty

def sameAs (p q : Profile) : Bool :=
  p.classes.sameAs q.classes && p.tags.sameAs q.tags && p.ids.sameAs q.ids

@[simp] theorem mem_classes_withCatalog {p : Profile} {catalog : Catalog} {name : String} :
    name ∈ (p.withCatalog catalog).classes ↔ name ∈ catalog.classes ∨ name ∈ p.classes := by
  simp [withCatalog, withClasses, withTags]

@[simp] theorem mem_tags_withCatalog {p : Profile} {catalog : Catalog} {name : String} :
    name ∈ (p.withCatalog catalog).tags ↔ name ∈ catalog.tags ∨ name ∈ p.tags := by
  simp [withCatalog, withClasses, withTags]

@[simp] theorem ids_withCatalog {p : Profile} {catalog : Catalog} :
    (p.withCatalog catalog).ids = p.ids :=
  rfl

end Profile

end StylePrune
