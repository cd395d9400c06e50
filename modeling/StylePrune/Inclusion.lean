import StylePrune.Allow.Rule
import StylePrune.Markup.Profile
import StylePrune.Selector.Descriptor

/-!
# Inclusion of selectors

Whether a selector may match something on a page and so keeps its rule.
-/

namespace StylePrune

open Selector (Descriptor)

/--
What decides about selectors.  The profile counts the classes and tags of the catalog as
used.
-/
structure Inclusion where
  profile : Profile
  catalog : Catalog
  allow : List Allow.Rule

namespace Inclusion

/-- The selector is kept whatever the profile and the allow list say. -/
def isExempt (catalog : Catalog) (d : Descriptor) : Bool :=
  d.selector.startsWith "@" || catalog.hasPreservedPseudo d.selector ||
    catalog.isCritical d.selector || d.attributeOnly

/-- The outcome of going through an allow list. -/
inductive Verdict
  | admitted
  /-- The selector is kept if these classes, and its ids and tags, are used. -/
  | needs (classes : List String)
  deriving BEq, DecidableEq, Repr

/-- What an entry for a leading class says of a selector. -/
inductive LeadingHit
  | whole
  | part
  | miss
  deriving BEq, DecidableEq, Repr

/-- Compares the text of a selector with `.` and a class name. -/
def leadingHit (className : String) (selector : String) : LeadingHit :=
  match selector.toList with
  | '.' :: rest =>
      if rest = className.toList then .whole
      else if className.toList.isPrefixOf rest then .part
      else .miss
  | _ => .miss

/-- What one rule of an allow list says of a selector; `none` leaves it to the next. -/
def verdict? (profile : Profile) (rule : Allow.Rule) (d : Descriptor) : Option Verdict :=
  match rule.kind with
  | .leading =>
      match rule.className with
      | none => none
      | some name =>
          match leadingHit name d.selector with
          | .whole => some .admitted
          | .part => some (.needs (d.classes.filter (· != name)))
          | .miss => none
  | .whileUsed =>
      if (rule.className.map profile.hasClass).getD false && rule.isMatch d.selector then
        some .admitted
      else none
  | .any => if rule.isMatch d.selector then some .admitted else none

/-- The first verdict of an allow list; without one all classes are needed. -/
def verdict (profile : Profile) (allow : List Allow.Rule) (d : Descriptor) : Verdict :=
  (allow.findSome? fun rule => verdict? profile rule d).getD (.needs d.classes)

/-- The selector keeps its rule. -/
def includes (m : Inclusion) (d : Descriptor) : Bool :=
  isExempt m.catalog d ||
    match verdict m.profile m.allow d with
    | .admitted => true
    | .needs classes =>
        m.profile.hasAllClasses classes && m.profile.hasAllIds d.ids &&
          m.profile.hasAllTags d.tags

def includesAny (m : Inclusion) (ds : List Descriptor) : Bool :=
  ds.any m.includes

end Inclusion

end StylePrune
