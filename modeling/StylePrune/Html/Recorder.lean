import StylePrune.Html.Token
import StylePrune.Markup.Profile
import StylePrune.Text.Blank

/-!
# Recording of used markup

The receiver of tree construction.  It builds no tree: it hands out handles, remembers the
names of elements and collects the tags, classes and ids of everything it is told about.
-/

namespace StylePrune

namespace Html

/-- A reference to a node; 0 is the document. -/
abbrev Handle := Nat

structure Recorder where
  /-- The names of the nodes by handle; nodes other than elements have none. -/
  names : Array (Option ElementName)
  used : Profile

namespace Recorder

def start : Recorder :=
  ⟨#[none], .empty⟩

instance : Inhabited Recorder :=
  ⟨start⟩

def recordAttr (used : Profile) (attr : Attribute) : Profile :=
  if attr.name = "class" then
    used.withClasses ((Text.words attr.value.toList).map String.ofList)
  else if attr.name = "id" then
    let id := Text.trimString attr.value
    if id = "" then used else used.insertId id
  else used

def recordAttrs (used : Profile) (attrs : List Attribute) : Profile :=
  attrs.foldl recordAttr used

def newHandle (r : Recorder) (name : Option ElementName) : Handle × Recorder :=
  (r.names.size, { r with names := r.names.push name })

def createElement (r : Recorder) (name : ElementName) (attrs : List Attribute) :
    Handle × Recorder :=
  newHandle { r with used := recordAttrs (r.used.insertTag name.name) attrs } (some name)

def createOther (r : Recorder) : Handle × Recorder :=
  r.newHandle none

/-- Attributes of a repeated tag, which are added to an element that exists. -/
def addAttrs (r : Recorder) (attrs : List Attribute) : Recorder :=
  { r with used := recordAttrs r.used attrs }

def nameOf? (r : Recorder) (handle : Handle) : Option ElementName :=
  (r.names[handle]?).join

/-- The name of a node, as tree construction is told it. -/
def nameOf (r : Recorder) (handle : Handle) : ElementName :=
  (r.nameOf? handle).getD .blank

inductive Inserted
  | node (handle : Handle)
  | text (s : String)
  deriving DecidableEq, Repr

inductive QuirksMode
  | quirks
  | limited
  | none
  deriving DecidableEq, Repr

/-- What tree construction can tell its receiver, or ask it. -/
inductive Call
  | createElement (name : ElementName) (attrs : List Attribute)
  | createComment (text : String)
  | createInstruction (target data : String)
  | addAttrsIfMissing (target : Handle) (attrs : List Attribute)
  | append (parent : Handle) (child : Inserted)
  | appendBasedOnParent (element before : Handle) (child : Inserted)
  | appendBefore (sibling : Handle) (child : Inserted)
  | appendDoctype (name publicId systemId : String)
  | markScriptStarted (node : Handle)
  | closed (node : Handle)
  | removeFromParent (target : Handle)
  | reparentChildren (node newParent : Handle)
  | parseError (message : String)
  | setQuirksMode (mode : QuirksMode)
  | document
  | nameOf (target : Handle)
  | templateContents (target : Handle)
  | sameNode (x y : Handle)

inductive Answer
  | nothing
  | handle (h : Handle)
  | name (n : ElementName)
  | truth (b : Bool)
  deriving DecidableEq, Repr

def receive (r : Recorder) : Call → Answer × Recorder
  | .createElement name attrs =>
      let (handle, r) := r.createElement name attrs
      (.handle handle, r)
  | .createComment _ =>
      let (handle, r) := r.createOther
      (.handle handle, r)
  | .createInstruction _ _ =>
      let (handle, r) := r.createOther
      (.handle handle, r)
  | .addAttrsIfMissing _ attrs => (.nothing, r.addAttrs attrs)
  | .document => (.handle 0, r)
  | .nameOf target => (.name (r.nameOf target), r)
  | .templateContents target => (.handle target, r)
  | .sameNode x y => (.truth (x == y), r)
  | _ => (.nothing, r)

def run (r : Recorder) (calls : List Call) : Recorder :=
  calls.foldl (fun r call => (r.receive call).2) r

def Call.attrs : Call → List Attribute
  | .createElement _ attrs => attrs
  | .addAttrsIfMissing _ attrs => attrs
  | _ => []

/-- What was recorded, when tree construction is over. -/
def finish (r : Recorder) : Profile :=
  r.used

end Recorder

end Html

end StylePrune
