/-!
# Names of elements

Namespaces, the names of elements in them, and the sets of elements that the rules for
tree construction refer to.
-/

namespace StylePrune

namespace Html

/-- The namespaces of elements.  Those of a page are in one of the first three. -/
inductive Namespace
  | html
  | svg
  | mathml
  | other (uri : String)
  deriving BEq, DecidableEq, Repr

structure ElementName where
  ns : Namespace
  name : String
  deriving BEq, DecidableEq, Repr

/-- The name of nodes that are no elements. -/
def ElementName.blank : ElementName :=
  ⟨.other "", ""⟩

abbrev NamePred := ElementName → Bool

def named (names : List String) : NamePred := fun n =>
  n.ns == .html && names.contains n.name

/-- HTML elements that an unmatched end tag does not look past. -/
def special : NamePred := named [
  "address", "applet", "area", "article", "aside", "base", "basefont", "bgsound", "blockquote",
  "body", "br", "button", "caption", "center", "col", "colgroup", "dd", "details", "dir", "div",
  "dl", "dt", "embed", "fieldset", "figcaption", "figure", "footer", "form", "frame", "frameset",
  "h1", "h2", "h3", "h4", "h5", "h6", "head", "header", "hgroup", "hr", "html", "iframe", "img",
  "input", "isindex", "li", "link", "listing", "main", "marquee", "menu", "meta", "nav",
  "noembed", "noframes", "noscript", "object", "ol", "p", "param", "plaintext", "pre", "script",
  "section", "select", "source", "style", "summary", "table", "tbody", "td", "template",
  "textarea", "tfoot", "th", "thead", "title", "tr", "track", "ul", "wbr", "xmp"]

/-- Elements of MathML that hold text and HTML. -/
def textIntegrationPoint : NamePred := fun n =>
  n.ns == .mathml && ["mi", "mo", "mn", "ms", "mtext"].contains n.name

/-- Elements of SVG that hold HTML. -/
def htmlIntegrationPoint : NamePred := fun n =>
  n.ns == .svg && ["foreignObject", "desc", "title"].contains n.name

def defaultScope : NamePred := fun n =>
  named ["applet", "caption", "html", "table", "td", "th", "marquee", "object", "template"] n ||
    textIntegrationPoint n || htmlIntegrationPoint n

def listItemScope : NamePred := fun n =>
  defaultScope n || named ["ol", "ul"] n

def buttonScope : NamePred := fun n =>
  defaultScope n || named ["button"] n

def tableScope : NamePred :=
  named ["html", "table", "template"]

def selectScope : NamePred := fun n =>
  !named ["optgroup", "option"] n

def tableBodyContext : NamePred :=
  named ["tbody", "tfoot", "thead", "template", "html"]

def tableRowContext : NamePred :=
  named ["tr", "template", "html"]

/-- Elements whose end tags may be left out. -/
def impliedEnd : NamePred :=
  named ["dd", "dt", "li", "option", "optgroup", "p", "rb", "rp", "rt", "rtc"]

/-- Elements whose end tags the end of a template implies. -/
def impliedTemplateEnd : NamePred := fun n =>
  impliedEnd n ||
    named ["caption", "colgroup", "tbody", "td", "tfoot", "th", "thead", "tr"] n

def headings : List String :=
  ["h1", "h2", "h3", "h4", "h5", "h6"]

/-- The spelling of SVG element names that lower case has lost. -/
def svgNames : List (String × String) := [
  ("altglyph", "altGlyph"), ("altglyphdef", "altGlyphDef"), ("altglyphitem", "altGlyphItem"),
  ("animatecolor", "animateColor"), ("animatemotion", "animateMotion"),
  ("animatetransform", "animateTransform"), ("clippath", "clipPath"), ("feblend", "feBlend"),
  ("fecolormatrix", "feColorMatrix"), ("fecomponenttransfer", "feComponentTransfer"),
  ("fecomposite", "feComposite"), ("feconvolvematrix", "feConvolveMatrix"),
  ("fediffuselighting", "feDiffuseLighting"), ("fedisplacementmap", "feDisplacementMap"),
  ("fedistantlight", "feDistantLight"), ("fedropshadow", "feDropShadow"),
  ("feflood", "feFlood"), ("fefunca", "feFuncA"), ("fefuncb", "feFuncB"),
  ("fefuncg", "feFuncG"), ("fefuncr", "feFuncR"), ("fegaussianblur", "feGaussianBlur"),
  ("feimage", "feImage"), ("femerge", "feMerge"), ("femergenode", "feMergeNode"),
  ("femorphology", "feMorphology"), ("feoffset", "feOffset"), ("fepointlight", "fePointLight"),
  ("fespecularlighting", "feSpecularLighting"), ("fespotlight", "feSpotLight"),
  ("fetile", "feTile"), ("feturbulence", "feTurbulence"), ("foreignobject", "foreignObject"),
  ("glyphref", "glyphRef"), ("lineargradient", "linearGradient"),
  ("radialgradient", "radialGradient"), ("textpath", "textPath")]

def svgName (name : String) : String :=
  ((svgNames.find? fun p => p.1 == name).map Prod.snd).getD name

end Html

end StylePrune
