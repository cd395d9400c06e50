import StylePrune.Html.Rule.Body

/-!
# Rules inside tables

What tree construction does with a token inside a table and its parts.  Content that does
not belong there goes by the rules for the body.
-/

namespace StylePrune

namespace Html

namespace Builder

/-- The element and those inside it are closed, and what is next follows the rules of `mode`. -/
def leaveFor (b : Builder) (context : NamePred) (mode : Mode) : Builder :=
  (b.popUntilCurrent context).pop.setMode mode

/-! ## Tables -/

def closeTable (b : Builder) : Builder :=
  (b.popUntilNamed "table").resetMode

def inTableStart : List StartRule := [
  (["caption"], fun b tag =>
    .done (((b.popUntilCurrent tableScope).pushMarker.insert tag).setMode .inCaption)),
  (["colgroup"], fun b tag =>
    .done (((b.popUntilCurrent tableScope).insert tag).setMode .inColumnGroup)),
  (["col"], fun b _ =>
    .again (((b.popUntilCurrent tableScope).insertImplied "colgroup").setMode .inColumnGroup)),
  (["tbody", "tfoot", "thead"], fun b tag =>
    .done (((b.popUntilCurrent tableScope).insert tag).setMode .inTableBody)),
  (["td", "th", "tr"], fun b _ =>
    .again (((b.popUntilCurrent tableScope).insertImplied "tbody").setMode .inTableBody)),
  (["table"], fun b _ =>
    if b.hasInScope tableScope ["table"] then .again b.closeTable else .done b),
  (["style", "script", "template"], fun b _ => .use .inHead b),
  (["input"], fun b tag =>
    if tag.isHiddenInput then .done (b.insertVoid tag) else .use .inBody b),
  (["form"], fun b tag =>
    if b.hasOpen "template" || b.form.isSome then .done b
    else
      let (e, b) := b.create ⟨.html, tag.name⟩ tag.attrs
      .done { b with form := some e })]

def inTableEnd : List EndRule := [
  (["table"], fun b _ =>
    .done (if b.hasInScope tableScope ["table"] then b.closeTable else b)),
  ("body" :: "html" :: tablePartNames, fun b _ => .done b),
  (["template"], fun b _ => .use .inHead b)]

/-- Text in a table is held back until its end is known. -/
def holdText (b : Builder) : Outcome :=
  if b.currentIs (named ["table", "tbody", "tfoot", "thead", "tr"]) then
    .again { b with returnMode := b.mode, mode := .inTableText, heldText := false }
  else .use .inBody b

def inTableRule (b : Builder) : Token → Outcome
  | .nullChar | .space | .text => b.holdText
  | .comment => .done b.comment
  | .doctype => .done b
  | .startTag tag =>
      match ruleFor? inTableStart tag.name with
      | some rule => rule b tag
      | none => .use .inBody b
  | .endTag name =>
      match ruleFor? inTableEnd name with
      | some rule => rule b name
      | none => .use .inBody b
  | .endOfFile => .use .inBody b

def inTableTextRule (b : Builder) : Token → Outcome
  | .nullChar | .space => .done b
  | .text => .done { b with heldText := true }
  | _ =>
      let b := b.setMode b.returnMode
      .again (if b.heldText then b.reconstruct.noFrameset else b)

/-! ## Captions and columns -/

def closeCaption (b : Builder) : Builder :=
  (((b.impliedEnds impliedEnd).popUntilNamed "caption").clearToMarker).setMode .inTable

def inCaptionRule (b : Builder) : Token → Outcome
  | .startTag tag =>
      if tablePartNames.contains tag.name then
        if b.hasInScope tableScope ["caption"] then .again b.closeCaption else .done b
      else .use .inBody b
  | .endTag name =>
      if name = "caption" then
        .done (if b.hasInScope tableScope ["caption"] then b.closeCaption else b)
      else if name = "table" then
        if b.hasInScope tableScope ["caption"] then .again b.closeCaption else .done b
      else if ("body" :: "html" :: tablePartNames).contains name then .done b
      else .use .inBody b
  | _ => .use .inBody b

def leaveColumns (b : Builder) : Outcome :=
  if b.currentNamed "colgroup" then .again (b.pop.setMode .inTable) else .done b

def inColumnGroupRule (b : Builder) : Token → Outcome
  | .space => .done b
  | .comment => .done b.comment
  | .endOfFile => .use .inBody b
  | .startTag tag =>
      if tag.name = "html" then .use .inBody b
      else if tag.name = "col" then .done (b.insertVoid tag)
      else if tag.name = "template" then .use .inHead b
      else b.leaveColumns
  | .endTag name =>
      if name = "colgroup" then
        .done (if b.currentNamed "colgroup" then b.pop.setMode .inTable else b)
      else if name = "col" then .done b
      else if name = "template" then .use .inHead b
      else b.leaveColumns
  | _ => b.leaveColumns

/-! ## Rows -/

/-- Parts of a table that end the part of the table around rows. -/
def sectionNames : List String :=
  ["caption", "col", "colgroup", "tbody", "tfoot", "thead"]

def leaveSection (b : Builder) : Outcome :=
  if b.hasInScope tableScope ["table", "tbody", "tfoot"] then
    .again (b.leaveFor tableBodyContext .inTable)
  else .done b

def inTableBodyRule (b : Builder) : Token → Outcome
  | .startTag tag =>
      if tag.name = "tr" then
        .done (((b.popUntilCurrent tableBodyContext).insert tag).setMode .inRow)
      else if ["td", "th"].contains tag.name then
        .again (((b.popUntilCurrent tableBodyContext).insertImplied "tr").setMode .inRow)
      else if sectionNames.contains tag.name then b.leaveSection
      else .use .inTable b
  | .endTag name =>
      if ["tbody", "tfoot", "thead"].contains name then
        .done (if b.hasInScope tableScope [name] then b.leaveFor tableBodyContext .inTable else b)
      else if name = "table" then b.leaveSection
      else if ("body" :: "html" :: tablePartNames).contains name then .done b
      else .use .inTable b
  | _ => .use .inTable b

def leaveRow (b : Builder) : Outcome :=
  if b.hasInScope tableScope ["tr"] then .again (b.leaveFor tableRowContext .inTableBody)
  else .done b

def inRowRule (b : Builder) : Token → Outcome
  | .startTag tag =>
      if ["td", "th"].contains tag.name then
        .done (((b.popUntilCurrent tableRowContext).insert tag).pushMarker.setMode .inCell)
      else if ("tr" :: sectionNames).contains tag.name then b.leaveRow
      else .use .inTable b
  | .endTag name =>
      if name = "tr" then
        .done (if b.hasInScope tableScope ["tr"] then b.leaveFor tableRowContext .inTableBody
          else b)
      else if name = "table" then b.leaveRow
      else if ["tbody", "tfoot", "thead"].contains name then
        if b.hasInScope tableScope [name] then b.leaveRow else .done b
      else if ("body" :: "html" :: tablePartNames).contains name then .done b
      else .use .inTable b
  | _ => .use .inTable b

/-! ## Cells -/

def leaveCell (b : Builder) : Outcome :=
  .again (b.closeCell.setMode .inRow)

def inCellRule (b : Builder) : Token → Outcome
  | .startTag tag =>
      if tablePartNames.contains tag.name then
        if b.hasInScope tableScope ["td", "th"] then b.leaveCell else .done b
      else .use .inBody b
  | .endTag name =>
      if ["td", "th"].contains name then
        if b.hasInScope tableScope [name] then
          .done (((b.impliedEnds impliedEnd).popUntilNamed name).clearToMarker.setMode .inRow)
        else .done b
      else if ["table", "tbody", "tfoot", "thead", "tr"].contains name then
        if b.hasInScope tableScope [name] then b.leaveCell else .done b
      else if ["body", "caption", "col", "colgroup", "html"].contains name then .done b
      else .use .inBody b
  | _ => .use .inBody b

end Builder

end Html

end StylePrune
