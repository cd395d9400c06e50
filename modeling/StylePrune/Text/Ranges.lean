import StylePrune.Text.Scalar

/-!
# Ranges of code points

Sets of characters given by the ranges of their code points, written in hexadecimal.
-/

namespace StylePrune

namespace Text

/-- Ranges of code points, both ends included. -/
structure Ranges where
  bounds : Array (Nat × Nat)

namespace Ranges

/-- One range: a code point, or two with a hyphen between them. -/
def boundsOfText (range : List Char) : Nat × Nat :=
  let first := range.takeWhile (· != '-')
  match range.dropWhile (· != '-') with
  | [] => (hexNumber first, hexNumber first)
  | _ :: last => (hexNumber first, hexNumber last)

def ofText (text : String) : Ranges :=
  ⟨((text.splitOn " ").map fun range => boundsOfText range.toList).toArray⟩

def ofLines (lines : List String) : Ranges :=
  ⟨(lines.map fun line => (ofText line).bounds.toList).flatten.toArray⟩

def contains (ranges : Ranges) (c : Char) : Bool :=
  ranges.bounds.any fun range => range.1 ≤ c.toNat && c.toNat ≤ range.2

end Ranges

end Text

end StylePrune
