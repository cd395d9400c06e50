import StylePrune.Html.Name

/-!
# Tokens of a page

Tags with their attributes, and the kinds of text that tree construction tells apart.
-/

namespace StylePrune

namespace Html

structure Attribute where
  name : String
  value : String
  deriving BEq, DecidableEq, Repr

structure Tag where
  name : String
  attrs : List Attribute
  selfClosing : Bool
  deriving BEq, DecidableEq, Repr

namespace Tag

def attr? (tag : Tag) (name : String) : Option String :=
  (tag.attrs.find? fun a => a.name == name).map Attribute.value

/-- The tags have the same name and the same attributes in some order. -/
def sameModuloOrder (a b : Tag) : Bool :=
  a.name == b.name && a.attrs.length == b.attrs.length &&
    a.attrs.all b.attrs.contains && b.attrs.all a.attrs.contains

end Tag

inductive Token
  | startTag (tag : Tag)
  | endTag (name : String)
  /-- A run of white space. -/
  | space
  /-- A run of text without white space. -/
  | text
  | nullChar
  | comment
  | doctype
  | endOfFile
  deriving BEq, DecidableEq, Repr

/-- The content that follows some start tags, in which tags mean nothing. -/
inductive RawContent
  /-- Text with character references. -/
  | escapable
  | raw
  | script
  deriving BEq, DecidableEq, Repr

end Html

end StylePrune
