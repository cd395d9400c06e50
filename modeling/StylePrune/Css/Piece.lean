import StylePrune.Selector.Name
import StylePrune.Url.Reference

/-!
# Printed text with references

Text of a stylesheet is printed as pieces: text that is fixed, and references to resources,
which are written relative to the directory of the stylesheet.
-/

namespace StylePrune

namespace Css

open Text

inductive Piece
  | text (s : String)
  /-- The target of a `url()`. -/
  | url (target : String)
  deriving DecidableEq, Repr

/-- Text with references in it. -/
abbrev Printed := List Piece

def identText (name : String) : String :=
  String.ofList (Selector.serializeName name.toList)

/-- A name after `#`, where digits may stand first. -/
def nameText (name : String) : String :=
  String.ofList (Selector.serializeChars name.toList)

def quoteChar (c : Char) : List Char :=
  if c = '"' ∨ c = '\\' then ['\\', c]
  else if c.toNat = 0 then [replacement]
  else if c.toNat < 0x20 ∨ c.toNat = 0x7F then Selector.hexEscape c
  else [c]

def stringText (s : String) : String :=
  String.ofList ('"' :: s.toList.flatMap quoteChar ++ ['"'])

def urlChar (c : Char) : List Char :=
  if c.toNat ≤ 0x20 ∨ c.toNat = 0x7F then Selector.hexEscape c
  else if c = '(' ∨ c = ')' ∨ c = '"' ∨ c = '\'' ∨ c = '\\' then ['\\', c]
  else [c]

/-- The shorter one of the two ways to write a reference, without quotes if they tie. -/
def urlText (target : String) : String :=
  let plain := "url(" ++ String.ofList (target.toList.flatMap urlChar) ++ ")"
  let quoted := "url(" ++ stringText target ++ ")"
  if quoted.utf8ByteSize < plain.utf8ByteSize then quoted else plain

namespace Piece

/-- A piece as it stands in a stylesheet whose references are relative to `base`. -/
def write (base : List Char) : Piece → String
  | text s => s
  | url target => urlText (String.ofList (Url.rebase base target.toList))

@[simp] theorem write_text (base : List Char) (s : String) : (text s).write base = s := rfl

end Piece

namespace Printed

def ofText (s : String) : Printed :=
  [.text s]

instance : Coe String Printed :=
  ⟨ofText⟩

/-- The text for a stylesheet whose references are relative to `base`. -/
def write (base : List Char) (p : Printed) : String :=
  String.join (p.map (Piece.write base))

@[simp] theorem write_nil (base : List Char) : write base [] = "" := rfl

@[simp] theorem write_cons (base : List Char) (x : Piece) (p : Printed) :
    write base (x :: p) = x.write base ++ write base p := by
  simp [write]

@[simp] theorem write_append (base : List Char) (p q : Printed) :
    write base (p ++ q) = write base p ++ write base q := by
  simp [write]

@[simp] theorem write_ofText (base : List Char) (s : String) : write base (ofText s) = s := by
  simp [write, ofText]

def joinWith (separator : String) : List Printed → Printed
  | [] => []
  | [p] => p
  | p :: rest => p ++ .text separator :: joinWith separator rest

/-- The text without regard to where references are written. -/
def plain (p : Printed) : String :=
  p.write []

end Printed

end Css

end StylePrune
