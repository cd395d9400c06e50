import StylePrune.Html.Rule.Body

/-!
# Rules inside selects, templates and framesets

What tree construction does with a token in the contexts that admit few elements.
-/

namespace StylePrune

namespace Html

namespace Builder

/-! ## Selects -/

def popNamed (b : Builder) (name : String) : Builder :=
  if b.currentNamed name then b.pop else b

def closeSelect (b : Builder) : Builder :=
  (b.popUntilNamed "select").resetMode

def inSelectStart : List StartRule := [
  (["html"], fun b _ => .use .inBody b),
  (["option"], fun b tag => .done ((b.popNamed "option").insert tag)),
  (["optgroup"], fun b tag => .done (((b.popNamed "option").popNamed "optgroup").insert tag)),
  (["hr"], fun b tag => .done (((b.popNamed "option").popNamed "optgroup").insertVoid tag)),
  (["select"], fun b _ =>
    .done (if b.hasInScope selectScope ["select"] then b.closeSelect else b)),
  (["input", "keygen", "textarea"], fun b _ =>
    if b.hasInScope selectScope ["select"] then .again b.closeSelect else .done b),
  (["script", "template"], fun b _ => .use .inHead b)]

/-- An option group ends together with the option inside it. -/
def closeGroup (b : Builder) : Builder :=
  if b.currentNamed "option" && b.pop.currentNamed "optgroup" then b.pop.pop
  else b.popNamed "optgroup"

def inSelectEnd : List EndRule := [
  (["optgroup"], fun b _ => .done b.closeGroup),
  (["option"], fun b _ => .done (b.popNamed "option")),
  (["select"], fun b _ =>
    .done (if b.hasInScope selectScope ["select"] then b.closeSelect else b)),
  (["template"], fun b _ => .use .inHead b)]

def inSelectRule (b : Builder) : Token → Outcome
  | .comment => .done b.comment
  | .startTag tag =>
      match ruleFor? inSelectStart tag.name with
      | some rule => rule b tag
      | none => .done b
  | .endTag name =>
      match ruleFor? inSelectEnd name with
      | some rule => rule b name
      | none => .done b
  | .endOfFile => .use .inBody b
  | _ => .done b

/-- Parts of a table that close a select inside the table. -/
def leavesSelect (name : String) : Bool :=
  ["caption", "table", "tbody", "tfoot", "thead", "tr", "td", "th"].contains name

def inSelectInTableRule (b : Builder) : Token → Outcome
  | .startTag tag =>
      if leavesSelect tag.name then .again b.closeSelect else .use .inSelect b
  | .endTag name =>
      if leavesSelect name then
        if b.hasInScope tableScope [name] then .again b.closeSelect else .done b
      else .use .inSelect b
  | _ => .use .inSelect b

/-! ## Templates -/

/-- The content of the template turns out to belong to `mode`. -/
def templateMode (b : Builder) (mode : Mode) : Outcome :=
  .again { b with templateModes := mode :: b.templateModes.drop 1, mode }

def inTemplateRule (b : Builder) : Token → Outcome
  | .space | .text | .comment => .use .inBody b
  | .startTag tag =>
      if headNames.contains tag.name then .use .inHead b
      else if ["caption", "colgroup", "tbody", "tfoot", "thead"].contains tag.name then
        b.templateMode .inTable
      else if tag.name = "col" then b.templateMode .inColumnGroup
      else if tag.name = "tr" then b.templateMode .inTableBody
      else if ["td", "th"].contains tag.name then b.templateMode .inRow
      else b.templateMode .inBody
  | .endTag name => if name = "template" then .use .inHead b else .done b
  | .endOfFile =>
      if b.hasOpen "template" then .again (b.popUntilNamed "template").leaveTemplate
      else .done { b with stopped := true }
  | _ => .done b

/-! ## Framesets -/

def closeFrameset (b : Builder) : Builder :=
  if b.stack.length ≤ 1 then b
  else
    let b := b.pop
    if b.currentNamed "frameset" then b else b.setMode .afterFrameset

def inFramesetRule (b : Builder) : Token → Outcome
  | .comment => .done b.comment
  | .startTag tag =>
      if tag.name = "html" then .use .inBody b
      else if tag.name = "frameset" then .done (b.insert tag)
      else if tag.name = "frame" then .done (b.insertVoid tag)
      else if tag.name = "noframes" then .use .inHead b
      else .done b
  | .endTag name => .done (if name = "frameset" then b.closeFrameset else b)
  | .endOfFile => .done { b with stopped := true }
  | _ => .done b

def afterFramesetRule (b : Builder) : Token → Outcome
  | .comment => .done b.comment
  | .startTag tag =>
      if tag.name = "html" then .use .inBody b
      else if tag.name = "noframes" then .use .inHead b
      else .done b
  | .endTag name => .done (if name = "html" then b.setMode .afterAfterFrameset else b)
  | .endOfFile => .done { b with stopped := true }
  | _ => .done b

def afterAfterFramesetRule (b : Builder) : Token → Outcome
  | .comment => .done b.comment
  | .space => .use .inBody b
  | .startTag tag =>
      if tag.name = "html" then .use .inBody b
      else if tag.name = "noframes" then .use .inHead b
      else .done b
  | .endOfFile => .done { b with stopped := true }
  | _ => .done b

end Builder

end Html

end StylePrune
