import StylePrune.Css.Value.Basic

/-!
# Names of animations
-/

namespace StylePrune

namespace Css

namespace Reader

/-- Words that cannot be the name of an animation without quotes. -/
def reservedAnimations : List String :=
  ["none", "initial", "inherit", "unset", "default", "revert", "revert-layer"]

/-- The name of an animation; quotes stay only around a reserved word. -/
def animationName : Reader String := do
  match ← next with
  | .token (.ident name) _ =>
      if reservedAnimations.contains (Text.lower name) then fail else pure (identText name)
  | .token (.string name) _ =>
      if reservedAnimations.contains (Text.lower name) then pure (stringText name)
      else pure (identText name)
  | _ => fail

end Reader

end Css

end StylePrune
