import StylePrune.Inclusion
import StylePrune.Tree.Node

/-!
# Rendering of rule trees

The text of the rules that survive.  A leaf is printed if one of its selectors is kept, a
grouping rule if something inside it is printed.
-/

namespace StylePrune

open Selector (Descriptor)

/-- The text of what survives, with the numbers of kept and dropped leaves. -/
structure Rendering where
  css : String
  kept : Nat
  dropped : Nat
  deriving BEq, DecidableEq, Repr

namespace Rendering

def empty : Rendering :=
  ⟨"", 0, 0⟩

def append (r s : Rendering) : Rendering :=
  ⟨r.css ++ s.css, r.kept + s.kept, r.dropped + s.dropped⟩

instance : Append Rendering :=
  ⟨append⟩

/-- The text of a grouping rule, unless it is empty. -/
def wrap (header : String) (r : Rendering) : Rendering :=
  if r.css = "" then r else { r with css := header ++ " \x7b " ++ r.css ++ " \x7d" }

end Rendering

namespace Node

/-- A leaf with these selectors is printed. -/
def keeps (keep : List Descriptor → Bool) (selectors : Option (List Descriptor)) : Bool :=
  match selectors with
  | none => true
  | some ds => keep ds

mutual

/-- The rendering of a node, where `keep` decides about the selectors of a leaf. -/
def render (keep : List Descriptor → Bool) : Node → Rendering
  | leaf css selectors => if keeps keep selectors then ⟨css, 1, 0⟩ else ⟨"", 0, 1⟩
  | container header rules => (renderList keep rules).wrap header

def renderList (keep : List Descriptor → Bool) : List Node → Rendering
  | [] => .empty
  | n :: rest => render keep n ++ renderList keep rest

end

mutual

/-- The node without the leaves that are not printed and without what is then empty. -/
def prune? (keep : List Descriptor → Bool) : Node → Option Node
  | leaf css selectors => if keeps keep selectors then some (leaf css selectors) else none
  | container header rules =>
      match pruneList keep rules with
      | [] => none
      | n :: rest => some (container header (n :: rest))

def pruneList (keep : List Descriptor → Bool) : List Node → List Node
  | [] => []
  | n :: rest =>
      match prune? keep n with
      | some n => n :: pruneList keep rest
      | none => pruneList keep rest

end

end Node

def Inclusion.render (m : Inclusion) (rules : List Node) : Rendering :=
  Node.renderList m.includesAny rules

end StylePrune
