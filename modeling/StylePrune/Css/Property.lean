import StylePrune.Css.Property.Background
import StylePrune.Css.Property.Effect
import StylePrune.Css.Property.Layout
import StylePrune.Css.Property.Motion
import StylePrune.Css.Property.Name
import StylePrune.Css.Property.Text

/-!
# Properties

The properties whose values are understood.  A value that is not understood, and the value
of an unknown property, is kept as it is.
-/

namespace StylePrune

namespace Css

namespace Property

/-- The properties whose values are understood; `split` takes the prefix off a name. -/
def groupsWith (split : String → String × String) : List PropertyGroup :=
  layoutGroups ++ borderGroups ++ backgroundGroups ++ textGroups ++ effectGroups ++
    motionGroups split

/-- The names that browsers know with no prefix. -/
def knownNames : List String :=
  let names := (groupsWith fun name => ("", name)).flatMap PropertyGroup.names
  (names ++ otherNames).filter fun name => !prefixedOnly.contains name

/-- The prefix and the base of a property's name; an unknown name stays as it is. -/
def splitPrefix (written : String) : String × String :=
  let name := Text.lower written
  if knownNames.contains name then ("", name) else (prefixed? name).getD ("", written)

def reader? (name : String) : Option (Reader Printed) :=
  ((groupsWith splitPrefix).find? fun g => g.names.contains name).map PropertyGroup.value

/-- The property whose values are not kept where they are not understood. -/
def isStrict (name : String) : Bool :=
  name == "all"

/-- The name of a property as it is printed, and the text of its value. -/
def read? (written : String) (value : List Component) : Option (String × Printed) := do
  let (lead, base) := splitPrefix written
  match (reader? base).bind fun r => Reader.all? r value with
  | some p => return (lead ++ base, p)
  | none =>
      if isStrict base then none
      else return (identText (lead ++ base), ← verbatim? .compact value)

end Property

end Css

end StylePrune
