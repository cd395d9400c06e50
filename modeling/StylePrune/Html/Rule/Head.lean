import StylePrune.Html.Builder

/-!
# Rules before the body

What tree construction does with a token up to the start of the body, and the rules for
elements of the head, which other modes use as well.
-/

namespace StylePrune

namespace Html

/-- What happens at the start tags with these names. -/
abbrev StartRule := List String × (Builder → Tag → Outcome)

abbrev EndRule := List String × (Builder → String → Outcome)

def ruleFor? {rule : Type} (rules : List (List String × rule)) (name : String) : Option rule :=
  (rules.find? fun r => r.1.contains name).map Prod.snd

/-- The start tags of elements that stand in the head wherever they are met. -/
def headNames : List String :=
  ["base", "basefont", "bgsound", "link", "meta", "noframes", "script", "style", "template",
    "title"]

/-- The end tags that imply the elements they would close. -/
def implyingEnds : List String :=
  ["head", "body", "html", "br"]

namespace Builder

def initialRule (b : Builder) : Token → Outcome
  | .space => .done b
  | .comment => .done b.comment
  | .doctype => .done (b.setMode .beforeHtml)
  | _ => .again (b.setMode .beforeHtml)

def beforeHtmlRule (b : Builder) : Token → Outcome
  | .space => .done b
  | .comment => .done b.comment
  | .startTag tag =>
      if tag.name = "html" then .done ((b.insert tag).setMode .beforeHead)
      else .again ((b.insertImplied "html").setMode .beforeHead)
  | .endTag name =>
      if implyingEnds.contains name then .again ((b.insertImplied "html").setMode .beforeHead)
      else .done b
  | _ => .again ((b.insertImplied "html").setMode .beforeHead)

def openHead (b : Builder) (attrs : List Attribute) : Builder :=
  let b := b.insertNamed ⟨.html, "head"⟩ attrs
  { b with head := b.stack.head?, mode := .inHead }

def beforeHeadRule (b : Builder) : Token → Outcome
  | .space => .done b
  | .comment => .done b.comment
  | .startTag tag =>
      if tag.name = "html" then .use .inBody b
      else if tag.name = "head" then .done (b.openHead tag.attrs)
      else .again (b.openHead [])
  | .endTag name =>
      if implyingEnds.contains name then .again (b.openHead []) else .done b
  | _ => .again (b.openHead [])

def openTemplate (b : Builder) (tag : Tag) : Builder :=
  let b := (b.insert tag).pushMarker.noFrameset
  { b with mode := .inTemplate, templateModes := .inTemplate :: b.templateModes }

/-- Leaves the innermost template, whose element is closed already. -/
def leaveTemplate (b : Builder) : Builder :=
  let b := b.clearToMarker
  resetMode { b with templateModes := b.templateModes.drop 1 }

def closeTemplate (b : Builder) : Builder :=
  if b.hasOpen "template" then
    ((b.impliedEnds impliedTemplateEnd).popUntilNamed "template").leaveTemplate
  else b

def inHeadStart : List StartRule := [
  (["html"], fun b _ => .use .inBody b),
  (["base", "basefont", "bgsound", "link", "meta"], fun b tag => .done (b.insertVoid tag)),
  (["title"], fun b tag => .done (b.insertContent tag .escapable)),
  (["noframes", "style", "noscript"], fun b tag => .done (b.insertContent tag .raw)),
  (["script"], fun b tag => .done (b.insertContent tag .script)),
  (["template"], fun b tag => .done (b.openTemplate tag)),
  (["head"], fun b _ => .done b)]

/-- Leaves the head and looks at the token again. -/
def leaveHead (b : Builder) : Outcome :=
  .again (b.pop.setMode .afterHead)

def inHeadRule (b : Builder) : Token → Outcome
  | .space => .done b
  | .comment => .done b.comment
  | .startTag tag =>
      match ruleFor? inHeadStart tag.name with
      | some rule => rule b tag
      | none => b.leaveHead
  | .endTag name =>
      if name = "head" then .done (b.pop.setMode .afterHead)
      else if name = "template" then .done b.closeTemplate
      else if implyingEnds.contains name then b.leaveHead
      else .done b
  | _ => b.leaveHead

/-- Opens the body that no tag stands for. -/
def openBody (b : Builder) : Outcome :=
  .again ((b.insertImplied "body").setMode .inBody)

/-- The head stays open for one element that stands after it. -/
def reopenHead (b : Builder) (token : Token) : Outcome :=
  match b.head with
  | none => .done b
  | some head =>
      match (b.push head).inHeadRule token with
      | .done b => .done (b.removeOpen head.handle)
      | .again b => .again (b.removeOpen head.handle)
      | .use mode b => .use mode (b.removeOpen head.handle)

def afterHeadRule (b : Builder) : Token → Outcome
  | .space => .done b
  | .comment => .done b.comment
  | .startTag tag =>
      if tag.name = "html" then .use .inBody b
      else if tag.name = "body" then .done ((b.insert tag).noFrameset.setMode .inBody)
      else if tag.name = "frameset" then .done ((b.insert tag).setMode .inFrameset)
      else if headNames.contains tag.name then b.reopenHead (.startTag tag)
      else if tag.name = "head" then .done b
      else b.openBody
  | .endTag name =>
      if name = "template" then .use .inHead b
      else if name ≠ "head" ∧ implyingEnds.contains name then b.openBody
      else .done b
  | _ => b.openBody

end Builder

end Html

end StylePrune
