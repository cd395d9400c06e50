import StylePrune.Css.Statement
import StylePrune.Css.Value.AnimationName

/-!
# Keyframes

Named animations.  A keyframe that cannot be read is left out.
-/

namespace StylePrune

namespace Css

namespace Reader

def timelineRanges : List String :=
  ["cover", "contain", "entry", "exit", "entry-crossing", "exit-crossing"]

def keyframeTime : Reader String :=
  firstOf [do
    let p ← percentage
    return if p = .quantity 100 percentSign then "to" else p.text,
    do return if (← oneOf ["from", "to"]) = "from" then "0%" else "to",
    do
      let name ← oneOf timelineRanges
      let p ← percentage
      return name ++ " " ++ p.text]

/-- A keyframe from what stands before its block and the content of the block. -/
def keyframe? (head block : List Component) : Option Printed := do
  let times ← all? (commaSeparated keyframeTime) head
  let ds ← declarations block
  return .text (String.intercalate "," times ++ "\x7b") :: Declaration.printAll ds ++
    [.text "\x7d"]

def keyframesFrom : Nat → List Component → Printed
  | 0, _ => []
  | fuel + 1, s =>
      match skipBlanks s with
      | [] => []
      | .token .semicolon _ :: rest => keyframesFrom fuel rest
      | .token (.atKeyword name) _ :: rest => keyframesFrom fuel (atRule name rest).2
      | s =>
          match s.dropWhile (!·.isCurly) with
          | .block .curly items _ :: rest =>
              (keyframe? (s.takeWhile (!·.isCurly)) items).getD [] ++ keyframesFrom fuel rest
          | _ => []

/-- A rule of keyframes with a prefix. -/
def keyframes? (lead : String) (head block : List Component) : Option Printed := do
  let name ← all? animationName head
  return .text ("@" ++ lead ++ "keyframes " ++ name ++ "\x7b") ::
    keyframesFrom (block.length + 1) block ++ [.text "\x7d"]

end Reader

end Css

end StylePrune
