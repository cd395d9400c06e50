import StylePrune.Html.Builder

/-!
# Rules outside HTML

What tree construction does with a token inside SVG and MathML.
-/

namespace StylePrune

namespace Html

/-- HTML elements that end the foreign content they are met in. -/
def breakoutNames : List String :=
  ["b", "big", "blockquote", "body", "br", "center", "code", "dd", "div", "dl", "dt", "em",
    "embed", "h1", "h2", "h3", "h4", "h5", "h6", "head", "hr", "i", "img", "li", "listing",
    "menu", "meta", "nobr", "ol", "p", "pre", "ruby", "s", "small", "span", "strong", "strike",
    "sub", "sup", "table", "tt", "u", "ul", "var"]

namespace Tag

def breaksOut (tag : Tag) : Bool :=
  breakoutNames.contains tag.name ||
    tag.name == "font" && tag.attrs.any fun a => ["color", "face", "size"].contains a.name

end Tag

namespace Token

def isText : Token → Bool
  | space | text | nullChar => true
  | _ => false

def isStartExcept (names : List String) : Token → Bool
  | startTag tag => !names.contains tag.name
  | _ => false

def isStartNamed (name : String) : Token → Bool
  | startTag tag => tag.name == name
  | _ => false

end Token

namespace Builder

/-- The current element is outside HTML. -/
def currentForeign (b : Builder) : Bool :=
  b.currentIs fun n => n.ns != .html

def isForeign (b : Builder) (token : Token) : Bool :=
  match b.stack with
  | [] => false
  | e :: _ =>
      if token = .endOfFile ∨ e.name.ns = .html then false
      else if textIntegrationPoint e.name then
        !(token.isText || token.isStartExcept ["mglyph", "malignmark"])
      else if htmlIntegrationPoint e.name then
        !(token.isText || token.isStartExcept [])
      else if e.name = ⟨.mathml, "annotation-xml"⟩ then !token.isStartNamed "svg"
      else true

def holdsHtml : NamePred := fun n =>
  n.ns == .html || textIntegrationPoint n || htmlIntegrationPoint n

def breakOut (b : Builder) : Outcome :=
  let b := b.popUntilCurrent holdsHtml
  .use b.mode b

def openForeign (b : Builder) (ns : Namespace) (tag : Tag) : Builder :=
  let name := if ns = .svg then svgName tag.name else tag.name
  let b := b.insertNamed ⟨ns, name⟩ tag.attrs
  if tag.selfClosing then b.pop else b

/-- The open elements that stay when an end tag is looked for in foreign content. -/
inductive EndSearch
  | closes (outer : List Element)
  | reachesHtml
  | unmatched

/-- Looks for the element of an end tag among the foreign elements, innermost first. -/
def searchEnd (name : String) (isFirst : Bool) : List Element → EndSearch
  | [] => .unmatched
  | [_] => .unmatched
  | e :: outer =>
      if !isFirst && e.name.ns == .html then .reachesHtml
      else if e.name.name.toLower == name then .closes outer
      else searchEnd name false outer

def foreignRule (b : Builder) : Token → Outcome
  | .nullChar | .space => .done b
  | .text => .done b.noFrameset
  | .comment => .done b.comment
  | .startTag tag =>
      if tag.breaksOut then b.breakOut
      else
        match b.stack with
        | [] => .done b
        | e :: _ => .done (b.openForeign e.name.ns tag)
  | .endTag name =>
      if name = "br" ∨ name = "p" then b.breakOut
      else
        match searchEnd name true b.stack with
        | .closes outer => .done { b with stack := outer }
        | .reachesHtml => .use b.mode b
        | .unmatched => .done b
  | _ => .done b

end Builder

end Html

end StylePrune
