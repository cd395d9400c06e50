import StylePrune.Html.Recorder

/-!
# The state of tree construction

The open elements, the formatting elements that are carried over, and the steps that the
rules of the insertion modes share.  Elements are created through a recorder.
-/

namespace StylePrune

namespace Html

inductive Mode
  | initial
  | beforeHtml
  | beforeHead
  | inHead
  | afterHead
  | inBody
  | text
  | inTable
  | inTableText
  | inCaption
  | inColumnGroup
  | inTableBody
  | inRow
  | inCell
  | inSelect
  | inSelectInTable
  | inTemplate
  | afterBody
  | inFrameset
  | afterFrameset
  | afterAfterBody
  | afterAfterFrameset
  deriving BEq, DecidableEq, Repr

structure Element where
  handle : Handle
  name : ElementName
  deriving BEq, DecidableEq, Repr

/-- An entry of the list of formatting elements. -/
inductive Formatting
  | marker
  | element (handle : Handle) (tag : Tag)
  deriving BEq, DecidableEq, Repr

namespace Formatting

def isFor (handle : Handle) : Formatting → Bool
  | marker => false
  | element h _ => h == handle

end Formatting

structure Builder where
  recorder : Recorder
  mode : Mode
  /-- The mode to return to after text. -/
  returnMode : Mode
  /-- The modes of the open templates, the innermost first. -/
  templateModes : List Mode
  /-- The open elements, the current one first. -/
  stack : List Element
  /-- The formatting elements, the last one first. -/
  formatting : List Formatting
  head : Option Element
  form : Option Element
  framesetOk : Bool
  /-- The text that is held back in a table holds more than white space. -/
  heldText : Bool
  /-- The content that the last start tag announces. -/
  content : Option RawContent
  plaintext : Bool
  stopped : Bool

namespace Builder

def start : Builder where
  recorder := .start
  mode := .initial
  returnMode := .initial
  templateModes := []
  stack := []
  formatting := []
  head := none
  form := none
  framesetOk := true
  heldText := false
  content := none
  plaintext := false
  stopped := false

/-! ## Open elements -/

def currentIs (b : Builder) (p : NamePred) : Bool :=
  (b.stack.head?.map fun e => p e.name).getD false

def currentNamed (b : Builder) (name : String) : Bool :=
  b.currentIs (named [name])

def pop (b : Builder) : Builder :=
  { b with stack := b.stack.drop 1 }

def popUntilCurrent (b : Builder) (p : NamePred) : Builder :=
  { b with stack := b.stack.dropWhile fun e => !p e.name }

/-- Pops elements up to one with the property, this one included. -/
def popUntil (b : Builder) (p : NamePred) : Builder :=
  (b.popUntilCurrent p).pop

def popUntilNamed (b : Builder) (name : String) : Builder :=
  b.popUntil (named [name])

def removeOpen (b : Builder) (handle : Handle) : Builder :=
  { b with stack := b.stack.filter fun e => e.handle != handle }

/-- An element with the property is open and no element of the scope is inside it. -/
def inScope (scope : NamePred) (p : Element → Bool) : List Element → Bool
  | [] => false
  | e :: rest => p e || (!scope e.name && inScope scope p rest)

def hasInScope (b : Builder) (scope : NamePred) (names : List String) : Bool :=
  inScope scope (fun e => named names e.name) b.stack

def hasOpen (b : Builder) (name : String) : Bool :=
  b.stack.any fun e => named [name] e.name

/-- Pops elements whose end tags are implied. -/
def impliedEnds (b : Builder) (p : NamePred) : Builder :=
  { b with stack := b.stack.dropWhile fun e => p e.name }

def impliedEndsExcept (b : Builder) (name : String) : Builder :=
  b.impliedEnds fun n => impliedEnd n && !named [name] n

/-- The second open element, if it is the body. -/
def body? (b : Builder) : Option Element :=
  match b.stack.reverse with
  | _ :: e :: _ => if named ["body"] e.name then some e else none
  | _ => none

def keepBottom (b : Builder) (n : Nat) : Builder :=
  { b with stack := b.stack.drop (b.stack.length - n) }

/-! ## Insertion -/

def create (b : Builder) (name : ElementName) (attrs : List Attribute) : Element × Builder :=
  let (handle, recorder) := b.recorder.createElement name attrs
  (⟨handle, name⟩, { b with recorder })

def push (b : Builder) (e : Element) : Builder :=
  { b with stack := e :: b.stack }

def insertNamed (b : Builder) (name : ElementName) (attrs : List Attribute) : Builder :=
  let (e, b) := b.create name attrs
  b.push e

def insert (b : Builder) (tag : Tag) : Builder :=
  b.insertNamed ⟨.html, tag.name⟩ tag.attrs

/-- Opens an HTML element that no tag stands for. -/
def insertImplied (b : Builder) (name : String) : Builder :=
  b.insertNamed ⟨.html, name⟩ []

def insertVoid (b : Builder) (tag : Tag) : Builder :=
  (b.insert tag).pop

def comment (b : Builder) : Builder :=
  { b with recorder := b.recorder.createOther.2 }

/-- Opens the element of a tag whose content is text. -/
def insertContent (b : Builder) (tag : Tag) (content : RawContent) : Builder :=
  { b.insert tag with content := some content, returnMode := b.mode, mode := .text }

def addAttrs (b : Builder) (attrs : List Attribute) : Builder :=
  { b with recorder := b.recorder.addAttrs attrs }

def noFrameset (b : Builder) : Builder :=
  { b with framesetOk := false }

def setMode (b : Builder) (mode : Mode) : Builder :=
  { b with mode }

def closeParagraph (b : Builder) : Builder :=
  (b.impliedEndsExcept "p").popUntilNamed "p"

def closeParagraphInScope (b : Builder) : Builder :=
  if b.hasInScope buttonScope ["p"] then b.closeParagraph else b

/-! ## Formatting elements -/

def pushMarker (b : Builder) : Builder :=
  { b with formatting := .marker :: b.formatting }

/-- Drops the formatting elements up to the last marker, this one included. -/
def clearToMarker (b : Builder) : Builder :=
  { b with formatting := (b.formatting.dropWhile (· != .marker)).drop 1 }

def sinceMarker (b : Builder) : List Formatting :=
  b.formatting.takeWhile (· != .marker)

def removeFormatting (b : Builder) (handle : Handle) : Builder :=
  { b with formatting := b.formatting.filter fun f => !f.isFor handle }

/-- A marker, or an element that is open. -/
def isSettled (b : Builder) : Formatting → Bool
  | .marker => true
  | .element handle _ => b.stack.any fun e => e.handle == handle

/-- Opens formatting elements again, from the one that was opened first. -/
def reopen (b : Builder) : List Formatting → Builder
  | [] => b
  | .marker :: rest => { reopen b rest with }
  | .element _ tag :: rest =>
      let b := reopen b rest
      let (e, b) := b.create ⟨.html, tag.name⟩ tag.attrs
      let b := b.push e
      { b with formatting := .element e.handle tag :: b.formatting }

/-- Opens the formatting elements again that were closed by the way. -/
def reconstruct (b : Builder) : Builder :=
  let closed := b.formatting.takeWhile fun f => !b.isSettled f
  let b := { b with formatting := b.formatting.dropWhile fun f => !b.isSettled f }
  b.reopen closed

/-- Removes the earliest of three equal formatting elements since the last marker. -/
def limitEqual (b : Builder) (tag : Tag) : Builder :=
  let same : Formatting → Bool
    | .marker => false
    | .element _ t => t.sameModuloOrder tag
  let equal := b.sinceMarker.filter same
  match equal.getLast? with
  | some (.element handle _) => if equal.length ≥ 3 then b.removeFormatting handle else b
  | _ => b

def insertFormatting (b : Builder) (tag : Tag) : Builder :=
  let b := b.limitEqual tag
  let (e, b) := b.create ⟨.html, tag.name⟩ tag.attrs
  let b := b.push e
  { b with formatting := .element e.handle tag :: b.formatting }

/-! ## Insertion modes -/

/-- The mode for a select element, where `outer` holds the elements around it. -/
def selectMode : List Element → Mode
  | [] => .inSelect
  | e :: outer =>
      if named ["template"] e.name then .inSelect
      else if named ["table"] e.name then .inSelectInTable
      else selectMode outer

def fittingMode (b : Builder) : List Element → Mode
  | [] => .inBody
  | e :: outer =>
      let last := outer.isEmpty
      if e.name.ns != .html then b.fittingMode outer
      else
        match e.name.name with
        | "select" => selectMode outer
        | "td" | "th" => if last then b.fittingMode outer else .inCell
        | "tr" => .inRow
        | "tbody" | "thead" | "tfoot" => .inTableBody
        | "caption" => .inCaption
        | "colgroup" => .inColumnGroup
        | "table" => .inTable
        | "template" => b.templateModes.headD .inTemplate
        | "head" => if last then b.fittingMode outer else .inHead
        | "body" => .inBody
        | "frameset" => .inFrameset
        | "html" => if b.head.isNone then .beforeHead else .afterHead
        | _ => b.fittingMode outer

def resetMode (b : Builder) : Builder :=
  b.setMode (b.fittingMode b.stack)

def closeCell (b : Builder) : Builder :=
  ((b.impliedEnds impliedEnd).popUntil (named ["td", "th"])).clearToMarker

end Builder

inductive Outcome
  /-- The token is dealt with. -/
  | done (b : Builder)
  /-- The token is looked at again, in the mode of the builder. -/
  | again (b : Builder)
  /-- The rules of another mode apply, while the mode stays. -/
  | use (mode : Mode) (b : Builder)

end Html

end StylePrune
