import StylePrune.Html.Reference
import StylePrune.Html.Token

/-!
# Reading tokens of a page

The next token of a page, for each kind of content that it can stand in.
-/

namespace StylePrune

namespace Html

open Text

/-- Tab, line feed, form feed and space; the text has no carriage returns. -/
def isSpace (c : Char) : Bool :=
  c == '\t' || c == '\n' || c == '\x0c' || c == '\r' || c == ' '

def normalizeLines : List Char → List Char
  | '\r' :: '\n' :: rest => '\n' :: normalizeLines rest
  | '\r' :: rest => '\n' :: normalizeLines rest
  | c :: rest => c :: normalizeLines rest
  | [] => []

def dropMark : List Char → List Char
  | '\uFEFF' :: rest => rest
  | s => s

/-! ## Tags -/

/-- What was read of a tag; texts are kept last character first. -/
structure OpenTag where
  name : List Char
  attrs : List Attribute
  attrName : List Char
  attrValue : List Char

namespace OpenTag

/-- Ends the current attribute; a repeated name is dropped. -/
def finishAttr (t : OpenTag) : OpenTag :=
  if t.attrName.isEmpty then t
  else
    let name := String.ofList t.attrName.reverse
    let attrs :=
      if t.attrs.any fun a => a.name == name then t.attrs
      else ⟨name, attributeValue t.attrValue.reverse⟩ :: t.attrs
    { t with attrs, attrName := [], attrValue := [] }

def startAttr (t : OpenTag) (c : Char) : OpenTag :=
  { t.finishAttr with attrName := [c] }

def finish (t : OpenTag) (selfClosing : Bool) : Tag :=
  { name := String.ofList t.name.reverse, attrs := t.finishAttr.attrs.reverse, selfClosing }

end OpenTag

inductive TagPlace
  | name
  | beforeAttrName
  | attrName
  | afterAttrName
  | beforeValue
  | quoted (quote : Char)
  | unquoted
  | afterQuoted
  | slash

/-- The character that a name holds for `c`. -/
def nameChar (c : Char) : Char :=
  if c.toNat = 0 then replacement else c.toLower

def valueChar (c : Char) : Char :=
  if c.toNat = 0 then replacement else c

/-- The rest of a tag and the text after it; `none` if the page ends inside it. -/
def readTag (t : OpenTag) : TagPlace → List Char → Option (Tag × List Char)
  | _, [] => none
  | .name, c :: rest =>
      if isSpace c then readTag t .beforeAttrName rest
      else if c = '/' then readTag t .slash rest
      else if c = '>' then some (t.finish false, rest)
      else readTag { t with name := nameChar c :: t.name } .name rest
  | .beforeAttrName, c :: rest =>
      if isSpace c then readTag t .beforeAttrName rest
      else if c = '/' then readTag t .slash rest
      else if c = '>' then some (t.finish false, rest)
      else readTag (t.startAttr (nameChar c)) .attrName rest
  | .attrName, c :: rest =>
      if isSpace c then readTag t .afterAttrName rest
      else if c = '/' then readTag t .slash rest
      else if c = '=' then readTag t .beforeValue rest
      else if c = '>' then some (t.finish false, rest)
      else readTag { t with attrName := nameChar c :: t.attrName } .attrName rest
  | .afterAttrName, c :: rest =>
      if isSpace c then readTag t .afterAttrName rest
      else if c = '/' then readTag t .slash rest
      else if c = '=' then readTag t .beforeValue rest
      else if c = '>' then some (t.finish false, rest)
      else readTag (t.startAttr (nameChar c)) .attrName rest
  | .beforeValue, c :: rest =>
      if isSpace c then readTag t .beforeValue rest
      else if c = '"' ∨ c = '\'' then readTag t (.quoted c) rest
      else if c = '>' then some (t.finish false, rest)
      else readTag { t with attrValue := [valueChar c] } .unquoted rest
  | .quoted q, c :: rest =>
      if c = q then readTag t .afterQuoted rest
      else readTag { t with attrValue := valueChar c :: t.attrValue } (.quoted q) rest
  | .unquoted, c :: rest =>
      if isSpace c then readTag t .beforeAttrName rest
      else if c = '>' then some (t.finish false, rest)
      else readTag { t with attrValue := valueChar c :: t.attrValue } .unquoted rest
  | .afterQuoted, c :: rest =>
      if isSpace c then readTag t .beforeAttrName rest
      else if c = '/' then readTag t .slash rest
      else if c = '>' then some (t.finish false, rest)
      else readTag (t.startAttr (nameChar c)) .attrName rest
  | .slash, c :: rest =>
      if c = '>' then some (t.finish true, rest)
      else if isSpace c then readTag t .beforeAttrName rest
      else if c = '/' then readTag t .slash rest
      else readTag (t.startAttr (nameChar c)) .attrName rest

def tagFrom (c : Char) (rest : List Char) : Option (Tag × List Char) :=
  readTag ⟨[nameChar c], [], [], []⟩ .name rest

/-! ## Comments and other declarations -/

inductive CommentPlace
  | start
  | startDash
  | body
  | endDash
  | endDashes
  | endBang

def afterComment : CommentPlace → List Char → List Char
  | _, [] => []
  | .start, c :: rest =>
      if c = '>' then rest
      else if c = '-' then afterComment .startDash rest
      else afterComment .body rest
  | .startDash, c :: rest =>
      if c = '>' then rest
      else if c = '-' then afterComment .endDashes rest
      else afterComment .body rest
  | .body, c :: rest =>
      if c = '-' then afterComment .endDash rest else afterComment .body rest
  | .endDash, c :: rest =>
      if c = '-' then afterComment .endDashes rest else afterComment .body rest
  | .endDashes, c :: rest =>
      if c = '>' then rest
      else if c = '-' then afterComment .endDashes rest
      else if c = '!' then afterComment .endBang rest
      else afterComment .body rest
  | .endBang, c :: rest =>
      if c = '>' then rest
      else if c = '-' then afterComment .endDash rest
      else afterComment .body rest

def afterAngle (s : List Char) : List Char :=
  (s.dropWhile (· != '>')).drop 1

def startsWithWord (word s : List Char) : Bool :=
  word.isPrefixOf ((s.take word.length).map Char.toLower)

/-! ## Content without tags -/

def endsName (c : Char) : Bool :=
  isSpace c || c == '/' || c == '>'

/-- The text after a name that ends a tag's name, where `s` follows `</`. -/
def afterEndName? (name s : List Char) : Option (List Char) :=
  match s.drop name.length with
  | c :: rest => if startsWithWord name s && endsName c then some (c :: rest) else none
  | [] => none

/-- The rest of the end tag `name` that ends raw content, and the text after it. -/
def finishEndTag (name s : List Char) : Token × List Char :=
  match readTag ⟨name.reverse, [], [], []⟩ .name s with
  | some (_, rest) => (.endTag (String.ofList name), rest)
  | none => (.endOfFile, [])

def readRaw (name : List Char) : List Char → Token × List Char
  | [] => (.endOfFile, [])
  | '<' :: '/' :: rest =>
      match afterEndName? name rest with
      | some after => finishEndTag name after
      | none => readRaw name ('/' :: rest)
  | _ :: rest => readRaw name rest

inductive ScriptPlace
  | plain
  | escaped
  | escapedDash
  | escapedDashes
  | double
  | doubleDash
  | doubleDashes
  deriving BEq, DecidableEq

def scriptWord : List Char :=
  ['s', 'c', 'r', 'i', 'p', 't']

def startsInnerScript (s : List Char) : Bool :=
  (afterEndName? scriptWord s).isSome

namespace ScriptPlace

def next : ScriptPlace → Char → ScriptPlace
  | plain, _ => plain
  | escaped, '-' => escapedDash
  | escapedDash, '-' => escapedDashes
  | escapedDashes, '-' => escapedDashes
  | escapedDashes, '>' => plain
  | double, '-' => doubleDash
  | doubleDash, '-' => doubleDashes
  | doubleDashes, '-' => doubleDashes
  | doubleDashes, '>' => plain
  | escaped, _ | escapedDash, _ | escapedDashes, _ => escaped
  | double, _ | doubleDash, _ | doubleDashes, _ => double

def isDouble : ScriptPlace → Bool
  | double | doubleDash | doubleDashes => true
  | _ => false

/-- The place after `<`, where `s` is the text after that. -/
def afterAngleOpen (place : ScriptPlace) (s : List Char) : ScriptPlace :=
  if place.isDouble then
    match s with
    | '/' :: inner => if startsInnerScript inner then escaped else double
    | _ => double
  else if place = plain then
    if ['!', '-', '-'].isPrefixOf s then escaped else plain
  else if startsInnerScript s then double
  else escaped

end ScriptPlace

/-- The text after the name in a script's end tag, where `s` is the text after `<`. -/
def afterScriptEnd? (place : ScriptPlace) : List Char → Option (List Char)
  | '/' :: inner => if place.isDouble then none else afterEndName? scriptWord inner
  | _ => none

/--
The end tag that ends a script.  Inside a comment another script may start, whose end tag
does not count.
-/
def readScript (place : ScriptPlace) : List Char → Token × List Char
  | [] => (.endOfFile, [])
  | c :: rest =>
      if c = '<' then
        match afterScriptEnd? place rest with
        | some after => finishEndTag scriptWord after
        | none => readScript (place.afterAngleOpen rest) rest
      else readScript (place.next c) rest

/-! ## Tokens -/

def textToken (chars : List Char) : Token :=
  if chars.all isSpace then .space else .text

/-- The text inside a character data section, and the text after it. -/
def readCdata : List Char → List Char × List Char
  | [] => ([], [])
  | ']' :: ']' :: '>' :: rest => ([], rest)
  | c :: rest =>
      let r := readCdata rest
      (c :: r.1, r.2)

/-- The token after `<!`, where `foreign` says that the place is outside HTML. -/
def readDeclaration (foreign : Bool) (s : List Char) : Token × List Char :=
  if startsWithWord ['-', '-'] s then (.comment, afterComment .start (s.drop 2))
  else if startsWithWord "doctype".toList s then (.doctype, afterAngle s)
  else if foreign && "[CDATA[".toList.isPrefixOf s then
    let (body, rest) := readCdata (s.drop 7)
    (textToken body, rest)
  else (.comment, afterAngle s)

/-- The next token of a page outside raw content. -/
def nextToken (foreign : Bool) (s : List Char) : Token × List Char :=
  match s with
  | [] => (.endOfFile, [])
  | '<' :: '!' :: rest => readDeclaration foreign rest
  | '<' :: '?' :: rest => (.comment, afterAngle rest)
  | '<' :: '/' :: '>' :: rest => (.comment, rest)
  | '<' :: '/' :: c :: rest =>
      if isAsciiLetter c then
        match tagFrom c rest with
        | some (tag, rest) => (.endTag tag.name, rest)
        | none => (.endOfFile, [])
      else (.comment, afterAngle (c :: rest))
  | '<' :: c :: rest =>
      if isAsciiLetter c then
        match tagFrom c rest with
        | some (tag, rest) => (.startTag tag, rest)
        | none => (.endOfFile, [])
      else (.text, c :: rest)
  | '<' :: rest => (.text, rest)
  | '&' :: rest =>
      match reference? false rest with
      | some (chars, rest) => (textToken chars, rest)
      | none => (.text, rest)
  | c :: rest =>
      if c.toNat = 0 then (.nullChar, rest)
      else if isSpace c then (.space, rest.dropWhile isSpace)
      else
        (.text, rest.dropWhile fun c =>
          c != '<' && c != '&' && c.toNat != 0 && !isSpace c)

def readContent (content : RawContent) (name : String) (s : List Char) : Token × List Char :=
  match content with
  | .script => readScript .plain s
  | .escapable | .raw => readRaw name.toList s

end Html

end StylePrune
