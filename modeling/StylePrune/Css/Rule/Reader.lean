import StylePrune.Css.Rule.Descriptor
import StylePrune.Css.Rule.Import
import StylePrune.Css.Rule.Keyframes
import StylePrune.Css.Rule.Page

/-!
# Reading rules

The rules inside a block, and those of a whole stylesheet, where imports and namespaces must
come before other rules.  Nothing is skipped: what cannot be read makes the whole stylesheet
unreadable.
-/

namespace StylePrune

namespace Css

namespace Reader

def declarationRule (head : String) (block : List Component) : Option Rule := do
  let ds ← declarations block
  return .other (braced head (Declaration.printAll ds))

/-- A rule that is not understood keeps its tokens. -/
def unknownRule (r : AtRule) : Option Rule := do
  let head ← verbatim? .compact (skipBlanks r.head)
  let space := if head.isEmpty then "" else " "
  let front : Printed := .text ("@" ++ r.name ++ space) :: head
  match r.block with
  | none => return .other (front ++ [.text ";"])
  | some items => do
      let body ← verbatim? .compact items
      return .other (front ++ braced "" body)

def keyframesPrefix? (name : String) : Option String :=
  ["", "-webkit-", "-moz-", "-o-", "-ms-"].find? fun lead => lead ++ "keyframes" == name

/-- Families of fonts, all as names. -/
def familyNames : Reader String :=
  firstOf [do return familyText (← string), do
    let first ← ident
    let more ← many ident
    return familyText (String.intercalate " " (first :: more))]

def dashedName : Reader String := do
  let name ← ident
  if isDashed name then pure (identText name) else fail

def expectBlank (items : List Component) : Option Unit :=
  if (skipBlanks items).isEmpty then some () else none

/--
A rule that holds no other rules and is not allowed inside style rules; the outer option says
whether it is one.
-/
def closedRule (r : AtRule) : Option (Option Rule) :=
  let name := Text.lower r.name
  match name with
  | "font-face" => some do
      expectBlank r.head
      return .other (.text "@font-face" :: descriptors fontDescriptors (← r.block))
  | "font-palette-values" => some do
      let palette ← all? dashedName r.head
      return .other (.text ("@font-palette-values " ++ palette) ::
        descriptors paletteDescriptors (← r.block))
  | "view-transition" => some do
      expectBlank r.head
      return .other (.text "@view-transition" :: descriptors transitionDescriptors (← r.block))
  | "font-feature-values" => some do
      let families ← all? (commaSeparated familyNames) r.head
      let body ← featureValues? (← r.block)
      return .other (.text ("@font-feature-values " ++ String.intercalate "," families) :: body)
  | "counter-style" => some do
      let style ← all? customIdent r.head
      declarationRule ("@counter-style " ++ identText style) (← r.block)
  | "viewport" | "-ms-viewport" => some do
      expectBlank r.head
      declarationRule ("@" ++ name) (← r.block)
  | "page" => some do return .other (← page? r.head (← r.block))
  | _ =>
      match keyframesPrefix? name with
      | some lead => some do return .other (← keyframes? lead r.head (← r.block))
      | none => none

def scopeBounds : Reader (Option (List Complex) × Option (List Complex)) := do
  let start ← match ← optional (block .round) with
    | some items => do pure (some (← inside scopeSelectorList items))
    | none => pure none
  let stop ← match ← optional (word "to") with
    | some _ => do
        let items ← block .round
        pure (some (← inside scopeSelectorList items))
    | none => pure none
  return (start, stop)

/-- The argument of `url-prefix`, which is empty. -/
def emptyPrefix : Reader Unit := do
  let items ← functionNamed ["url-prefix"]
  inside (do
    match ← optional string with
    | some s => if s = "" then pure () else fail
    | none => pure ()) items

def containerQuery : Reader (Option String × Condition) := do
  let name ← optional containerName
  return (name, ← containerCondition)

/-- Rules of a block that is not a style rule's, with its declarations in a rule of their own. -/
def withDeclarations (body : List Declaration × List Rule) : List Rule :=
  if body.1.isEmpty then body.2 else .style [.start none [.nesting]] body.1 [] :: body.2

mutual

/-- An at-rule; inside a style rule only some rules are allowed. -/
def nestedRule (inStyle : Bool) : Nat → AtRule → Option Rule
  | 0, _ => none
  | fuel + 1, r =>
      match Text.lower r.name with
      | "media" => do
          let queries ← all? mediaList r.head
          let body ← ruleBody inStyle fuel (← r.block)
          return .media queries (withDeclarations body)
      | "supports" => do
          let condition ← all? supportCondition r.head
          let body ← ruleBody inStyle fuel (← r.block)
          return .supports condition (withDeclarations body)
      | "layer" =>
          match r.block with
          | none => if inStyle then none else return .other (← layerStatement? r.head)
          | some items => do
              let names ← layerNames? r.head
              let body ← ruleBody inStyle fuel items
              match names with
              | [] => return .layer [] (withDeclarations body)
              | [name] => return .layer name (withDeclarations body)
              | _ => none
      | "container" => do
          let (name, condition) ← all? containerQuery r.head
          let body ← ruleBody inStyle fuel (← r.block)
          return .container name condition (withDeclarations body)
      | "-moz-document" => do
          all? emptyPrefix r.head
          let body ← ruleBody inStyle fuel (← r.block)
          return .document (withDeclarations body)
      | "starting-style" => do
          expectBlank r.head
          let body ← ruleBody inStyle fuel (← r.block)
          return .startingStyle (withDeclarations body)
      | "scope" => do
          let (start, stop) ← all? scopeBounds r.head
          let body ← ruleBody inStyle fuel (← r.block)
          return .scope start stop (withDeclarations body)
      | "nest" =>
          if inStyle then do
            let selectors ← all? selectorList r.head
            if selectors.all Complex.mentionsNesting then
              let (ds, rules) ← ruleBody true fuel (← r.block)
              return .style selectors ds rules
            else none
          else unknownRule r
      | _ =>
          match closedRule r with
          | some rule => if inStyle then none else rule
          | none => unknownRule r

/-- The declarations and the rules of a block; only style rules have declarations. -/
def ruleBody (inStyle : Bool) : Nat → List Component → Option (List Declaration × List Rule)
  | 0, _ => none
  | fuel + 1, s =>
      match skipBlanks s with
      | [] => some ([], [])
      | .token .semicolon _ :: rest => ruleBody inStyle fuel rest
      | .token (.atKeyword name) _ :: rest => do
          let (r, rest) := atRule name rest
          let rule ← nestedRule inStyle fuel r
          let (ds, rules) ← ruleBody inStyle fuel rest
          return (ds, rule :: rules)
      | s =>
          let (part, rest) := cutAtSemicolon s
          match if inStyle then all? declaration part else none with
          | some d => do
              let (ds, rules) ← ruleBody inStyle fuel rest
              return (d :: ds, rules)
          | none => do
              let (rule, rest) ← styleRule inStyle fuel s
              let (ds, rules) ← ruleBody inStyle fuel rest
              return (ds, rule :: rules)

def styleRule (inStyle : Bool) : Nat → List Component → Option (Rule × List Component)
  | 0, _ => none
  | fuel + 1, s =>
      match s.dropWhile (!endsHead ·) with
      | .block .curly items _ :: rest => do
          let head := s.takeWhile (!endsHead ·)
          let selectors ← all? (if inStyle then nestedSelectorList else selectorList) head
          let (ds, rules) ← ruleBody true fuel items
          return (.style selectors ds rules, rest)
      | _ => none

end

/-! ## Stylesheets -/

/-- How far a stylesheet has come: rules of an earlier kind must not follow. -/
inductive Progress
  | start
  | layers
  | imports
  | namespaces
  | body
  deriving DecidableEq, Repr

namespace Progress

def rank : Progress → Nat
  | start => 0
  | layers => 1
  | imports => 2
  | namespaces => 3
  | body => 4

instance : LE Progress :=
  ⟨fun p q => p.rank ≤ q.rank⟩

instance (p q : Progress) : Decidable (p ≤ q) :=
  inferInstanceAs (Decidable (p.rank ≤ q.rank))

/-- The progress after layers were named, which may happen before imports and anywhere else. -/
def afterLayers (p : Progress) : Progress :=
  if p ≤ .layers then .layers else .body

end Progress

/-- A rule at the top of a stylesheet, which may print nothing, and the progress after it. -/
def topRule (p : Progress) (fuel : Nat) (r : AtRule) : Option (Option Rule × Progress) :=
  match Text.lower r.name, r.block with
  | "import", none => do
      if p ≤ .imports then return (some (.other (← all? importRule r.head)), .imports) else none
  | "namespace", none => do
      if p ≤ .namespaces then return (some (.other (← all? namespaceRule r.head)), .namespaces)
      else none
  | "charset", none => do
      let _ ← all? string r.head
      return (none, p)
  | "property", some items => do
      let name ← all? dashedName r.head
      let body ← registration? items
      return (some (.other (.text ("@property " ++ name) :: body)), .body)
  | "import", some _ | "namespace", some _ | "charset", some _ | "property", none => none
  | "layer", none => do return (some (← nestedRule false fuel r), p.afterLayers)
  | _, none => do return (some (← nestedRule false fuel r), p)
  | _, some _ => do return (some (← nestedRule false fuel r), .body)

/-- White space and the marks that hide a stylesheet from very old browsers. -/
def isFiller (c : Component) : Bool :=
  c.isBlank ||
    match c with
    | .token .commentOpen _ => true
    | .token .commentClose _ => true
    | _ => false

def rulesFrom (fuel : Nat) : Nat → Progress → List Component → Option (List Rule)
  | 0, _, _ => none
  | count + 1, p, s =>
      match s.dropWhile isFiller with
      | [] => some []
      | .token (.atKeyword name) _ :: rest => do
          let (r, rest) := atRule name rest
          let (rule, p) ← topRule p fuel r
          let rules ← rulesFrom fuel count p rest
          return rule.toList ++ rules
      | s => do
          let (rule, rest) ← styleRule false fuel s
          let rules ← rulesFrom fuel count .body rest
          return rule :: rules

/-- What follows a character set that a stylesheet starts with. -/
def skipCharset (s : List Component) : List Component :=
  match s.dropWhile isFiller with
  | .token (.atKeyword name) _ :: rest =>
      if Text.lower name = "charset" then (atRule name rest).2 else s
  | _ => s

def rules? (items : List Component) : Option (List Rule) :=
  let fuel := 4 * Component.weight items + 8
  rulesFrom fuel fuel .start (skipCharset items)

end Reader

end Css

end StylePrune
