import StylePrune.Html.Adoption
import StylePrune.Html.Rule.Head

/-!
# Rules inside the body

What tree construction does with a token inside the body, and after it.
-/

namespace StylePrune

namespace Html

/-- Elements that close an open paragraph and then start. -/
def blockNames : List String :=
  ["address", "article", "aside", "blockquote", "center", "details", "dialog", "dir", "div",
    "dl", "fieldset", "figcaption", "figure", "footer", "header", "hgroup", "main", "menu",
    "nav", "ol", "search", "section", "summary", "ul"]

/-- Formatting elements, links apart. -/
def formattingNames : List String :=
  ["b", "big", "code", "em", "font", "i", "s", "small", "strike", "strong", "tt", "u"]

/-- Parts of a table, which mean nothing outside one. -/
def tablePartNames : List String :=
  ["caption", "col", "colgroup", "tbody", "td", "tfoot", "th", "thead", "tr"]

namespace Tag

def isHiddenInput (tag : Tag) : Bool :=
  match tag.attr? "type" with
  | some type => type.toLower == "hidden"
  | none => false

end Tag

namespace Builder

/-! ## Start tags -/

def mergeIntoHtml (b : Builder) (tag : Tag) : Builder :=
  if b.hasOpen "template" then b else b.addAttrs tag.attrs

def mergeIntoBody (b : Builder) (tag : Tag) : Builder :=
  if b.body?.isSome && !b.hasOpen "template" then b.noFrameset.addAttrs tag.attrs else b

/-- A frameset takes the place of a body that holds nothing. -/
def replaceBody (b : Builder) (tag : Tag) : Builder :=
  if b.framesetOk && b.body?.isSome then
    ((b.keepBottom 1).insert tag).setMode .inFrameset
  else b

def openHeading (b : Builder) (tag : Tag) : Builder :=
  let b := b.closeParagraphInScope
  (if b.currentIs (named headings) then b.pop else b).insert tag

def openForm (b : Builder) (tag : Tag) : Builder :=
  if b.hasOpen "template" then b.closeParagraphInScope.insert tag
  else if b.form.isSome then b
  else
    let b := b.closeParagraphInScope.insert tag
    { b with form := b.stack.head? }

def itemToClose? (names : List String) : List Element → Option String
  | [] => none
  | e :: outer =>
      if named names e.name then some e.name.name
      else if special e.name && !named ["address", "div", "p"] e.name then none
      else itemToClose? names outer

def openItem (b : Builder) (names : List String) (tag : Tag) : Builder :=
  let b := b.noFrameset
  let b := match itemToClose? names b.stack with
    | some name => (b.impliedEndsExcept name).popUntilNamed name
    | none => b
  b.closeParagraphInScope.insert tag

def openButton (b : Builder) (tag : Tag) : Builder :=
  let b :=
    if b.hasInScope defaultScope ["button"] then
      (b.impliedEnds impliedEnd).popUntilNamed "button"
    else b
  (b.reconstruct.insert tag).noFrameset

def openNobr (b : Builder) (tag : Tag) : Builder :=
  let b := b.reconstruct
  let b := if b.hasInScope defaultScope ["nobr"] then (b.adopt "nobr").reconstruct else b
  b.insertFormatting tag

def openSelect (b : Builder) (tag : Tag) : Builder :=
  let inTable := [Mode.inTable, .inCaption, .inTableBody, .inRow, .inCell].contains b.mode
  (b.reconstruct.insert tag).noFrameset.setMode
    (if inTable then .inSelectInTable else .inSelect)

def openOption (b : Builder) (tag : Tag) : Builder :=
  (if b.currentNamed "option" then b.pop else b).reconstruct.insert tag

def openRuby (b : Builder) (implied : Builder → Builder) (tag : Tag) : Builder :=
  (if b.hasInScope defaultScope ["ruby"] then implied b else b).insert tag

def enterForeign (b : Builder) (ns : Namespace) (tag : Tag) : Builder :=
  let b := b.reconstruct.insertNamed ⟨ns, tag.name⟩ tag.attrs
  if tag.selfClosing then b.pop else b

def insertVoidVisible (b : Builder) (tag : Tag) : Builder :=
  (b.reconstruct.insertVoid tag).noFrameset

def inBodyStart : List StartRule := [
  (["html"], fun b tag => .done (b.mergeIntoHtml tag)),
  (headNames, fun b _ => .use .inHead b),
  (["body"], fun b tag => .done (b.mergeIntoBody tag)),
  (["frameset"], fun b tag => .done (b.replaceBody tag)),
  ("p" :: blockNames, fun b tag => .done (b.closeParagraphInScope.insert tag)),
  (headings, fun b tag => .done (b.openHeading tag)),
  (["pre", "listing"], fun b tag => .done (b.closeParagraphInScope.insert tag).noFrameset),
  (["form"], fun b tag => .done (b.openForm tag)),
  (["li"], fun b tag => .done (b.openItem ["li"] tag)),
  (["dd", "dt"], fun b tag => .done (b.openItem ["dd", "dt"] tag)),
  (["plaintext"], fun b tag =>
    .done { b.closeParagraphInScope.insert tag with plaintext := true }),
  (["button"], fun b tag => .done (b.openButton tag)),
  (["a"], fun b tag => .done (b.closeOpenLink.reconstruct.insertFormatting tag)),
  (formattingNames, fun b tag => .done (b.reconstruct.insertFormatting tag)),
  (["nobr"], fun b tag => .done (b.openNobr tag)),
  (["applet", "marquee", "object"], fun b tag =>
    .done (b.reconstruct.insert tag).pushMarker.noFrameset),
  (["table"], fun b tag =>
    .done ((b.closeParagraphInScope.insert tag).noFrameset.setMode .inTable)),
  (["input"], fun b tag =>
    .done (if tag.isHiddenInput then b.reconstruct.insertVoid tag else b.insertVoidVisible tag)),
  (["area", "br", "embed", "img", "keygen", "wbr"], fun b tag =>
    .done (b.insertVoidVisible tag)),
  (["param", "source", "track"], fun b tag => .done (b.insertVoid tag)),
  (["hr"], fun b tag => .done (b.closeParagraphInScope.insertVoid tag).noFrameset),
  (["image"], fun b tag => .done (b.insertVoidVisible { tag with name := "img" })),
  (["textarea"], fun b tag => .done (b.noFrameset.insertContent tag .escapable)),
  (["xmp"], fun b tag =>
    .done (b.closeParagraphInScope.reconstruct.noFrameset.insertContent tag .raw)),
  (["iframe"], fun b tag => .done (b.noFrameset.insertContent tag .raw)),
  (["noembed", "noscript"], fun b tag => .done (b.insertContent tag .raw)),
  (["select"], fun b tag => .done (b.openSelect tag)),
  (["optgroup", "option"], fun b tag => .done (b.openOption tag)),
  (["rb", "rtc"], fun b tag => .done (b.openRuby (·.impliedEnds impliedEnd) tag)),
  (["rp", "rt"], fun b tag => .done (b.openRuby (·.impliedEndsExcept "rtc") tag)),
  (["math"], fun b tag => .done (b.enterForeign .mathml tag)),
  (["svg"], fun b tag => .done (b.enterForeign .svg tag)),
  ("frame" :: "head" :: tablePartNames, fun b _ => .done b)]

/-! ## End tags -/

/-- Closes an element in scope together with those whose end tags are implied. -/
def closeInScope (b : Builder) (name : String) : Builder :=
  if b.hasInScope defaultScope [name] then (b.impliedEnds impliedEnd).popUntilNamed name else b

def closeForm (b : Builder) : Builder :=
  if b.hasOpen "template" then b.closeInScope "form"
  else
    match b.form with
    | none => b
    | some form =>
        let b := { b with form := none }
        if inScope defaultScope (fun e => e.handle == form.handle) b.stack then
          (b.impliedEnds impliedEnd).removeOpen form.handle
        else b

/-- The end of a paragraph, which is opened first if there is none. -/
def endParagraph (b : Builder) : Builder :=
  (if b.hasInScope buttonScope ["p"] then b else b.insertImplied "p").closeParagraph

def closeItem (b : Builder) (scope : NamePred) (name : String) : Builder :=
  if b.hasInScope scope [name] then (b.impliedEndsExcept name).popUntilNamed name else b

def closeHeading (b : Builder) : Builder :=
  if b.hasInScope defaultScope headings then
    (b.impliedEnds impliedEnd).popUntil (named headings)
  else b

def closeObject (b : Builder) (name : String) : Builder :=
  if b.hasInScope defaultScope [name] then (b.closeInScope name).clearToMarker else b

def inBodyEnd : List EndRule := [
  (["template"], fun b _ => .use .inHead b),
  (["body"], fun b _ =>
    .done (if b.hasInScope defaultScope ["body"] then b.setMode .afterBody else b)),
  (["html"], fun b _ =>
    if b.hasInScope defaultScope ["body"] then .again (b.setMode .afterBody) else .done b),
  ("button" :: "listing" :: "pre" :: blockNames, fun b name => .done (b.closeInScope name)),
  (["form"], fun b _ => .done b.closeForm),
  (["p"], fun b _ => .done b.endParagraph),
  (["li"], fun b name => .done (b.closeItem listItemScope name)),
  (["dd", "dt"], fun b name => .done (b.closeItem defaultScope name)),
  (headings, fun b _ => .done b.closeHeading),
  ("a" :: "nobr" :: formattingNames, fun b name => .done (b.adopt name)),
  (["applet", "marquee", "object"], fun b name => .done (b.closeObject name)),
  (["br"], fun b _ => .done (b.insertVoidVisible ⟨"br", [], false⟩))]

/-! ## The modes -/

def inBodyRule (b : Builder) : Token → Outcome
  | .nullChar => .done b
  | .space => .done b.reconstruct
  | .text => .done b.reconstruct.noFrameset
  | .comment => .done b.comment
  | .doctype => .done b
  | .startTag tag =>
      match ruleFor? inBodyStart tag.name with
      | some rule => rule b tag
      | none => .done (b.reconstruct.insert tag)
  | .endTag name =>
      match ruleFor? inBodyEnd name with
      | some rule => rule b name
      | none => .done (b.closeOther name)
  | .endOfFile =>
      if b.templateModes.isEmpty then .done { b with stopped := true } else .use .inTemplate b

def textRule (b : Builder) : Token → Outcome
  | .endOfFile => .again (b.pop.setMode b.returnMode)
  | .endTag _ => .done (b.pop.setMode b.returnMode)
  | _ => .done b

def afterBodyRule (b : Builder) : Token → Outcome
  | .space => .use .inBody b
  | .comment => .done b.comment
  | .endOfFile => .done { b with stopped := true }
  | .startTag tag => if tag.name = "html" then .use .inBody b else .again (b.setMode .inBody)
  | .endTag name =>
      if name = "html" then .done (b.setMode .afterAfterBody) else .again (b.setMode .inBody)
  | _ => .again (b.setMode .inBody)

def afterAfterBodyRule (b : Builder) : Token → Outcome
  | .space => .use .inBody b
  | .comment => .done b.comment
  | .endOfFile => .done { b with stopped := true }
  | .startTag tag => if tag.name = "html" then .use .inBody b else .again (b.setMode .inBody)
  | _ => .again (b.setMode .inBody)

end Builder

end Html

end StylePrune
