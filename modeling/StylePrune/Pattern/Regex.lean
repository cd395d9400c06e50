import StylePrune.Pattern.CharSet

/-!
# Regular expressions

Expressions over sets of characters and conditions on a position, the spans of a text that
an expression matches, and the search for one.  The search carries sets of positions, kept
as the bits of a number.
-/

namespace StylePrune

namespace Pattern

/-- A condition on a position in a text. -/
inductive Look
  | textStart
  | textEnd
  | lineStart
  | lineEnd
  /-- The same with `\r`, `\n` and `\r\n` as line ends. -/
  | crlfLineStart
  | crlfLineEnd
  | wordBoundary (isWord : CharSet)
  | notWordBoundary (isWord : CharSet)
  | wordStart (isWord : CharSet)
  | wordEnd (isWord : CharSet)
  | wordStartHalf (isWord : CharSet)
  | wordEndHalf (isWord : CharSet)
  deriving BEq, DecidableEq, Repr

inductive Regex
  | empty
  | set (s : CharSet)
  | look (l : Look)
  | seq (r s : Regex)
  | alt (r s : Regex)
  /-- At least `least` times, and at most `most` times if there is a bound. -/
  | rep (r : Regex) (least : Nat) (most : Option Nat)
  deriving BEq, DecidableEq, Repr

namespace Look

def before? (text : Array Char) (p : Nat) : Option Char :=
  if p = 0 then none else text[p - 1]?

def holds (text : Array Char) (p : Nat) : Look → Bool
  | textStart => p == 0
  | textEnd => p == text.size
  | lineStart => p == 0 || before? text p == some '\n'
  | lineEnd => p == text.size || text[p]? == some '\n'
  | crlfLineStart =>
      p == 0 || before? text p == some '\n' ||
        (before? text p == some '\r' && text[p]? != some '\n')
  | crlfLineEnd =>
      p == text.size || text[p]? == some '\r' ||
        (text[p]? == some '\n' && before? text p != some '\r')
  | wordBoundary w => wordBefore w != wordAfter w
  | notWordBoundary w => wordBefore w == wordAfter w
  | wordStart w => !wordBefore w && wordAfter w
  | wordEnd w => wordBefore w && !wordAfter w
  | wordStartHalf w => !wordBefore w
  | wordEndHalf w => !wordAfter w
where
  wordBefore (w : CharSet) : Bool := ((before? text p).map w.contains).getD false
  wordAfter (w : CharSet) : Bool := (text[p]?.map w.contains).getD false

end Look

/-- A set of positions: the bits of a number. -/
abbrev Positions := Nat

namespace Positions

def upTo (n : Nat) (p : Nat → Bool) : Positions :=
  (List.range (n + 1)).foldl (fun set i => if p i then set ||| (1 <<< i) else set) 0

def all (n : Nat) : Positions :=
  1 <<< (n + 1) - 1

/-- Applies `f` until nothing is added, at most `fuel` times. -/
def closure (f : Positions → Positions) : Nat → Positions → Positions
  | 0, set => set
  | fuel + 1, set =>
      let more := set ||| f set
      if more = set then set else closure f fuel more

end Positions

def iterate {α : Type} (f : α → α) : Nat → α → α
  | 0, x => x
  | n + 1, x => iterate f n (f x)

namespace Regex

def altAll : List Regex → Regex
  | [] => empty
  | [r] => r
  | r :: rest => alt r (altAll rest)

def seqAll : List Regex → Regex
  | [] => empty
  | [r] => r
  | r :: rest => seq r (seqAll rest)

def literal (s : List Char) : Regex :=
  seqAll (s.map fun c => set (.single c))

/--
The span of the text from one position to another is matched.
-/
inductive Matches (text : Array Char) : Regex → Nat → Nat → Prop
  | empty {p : Nat} : Matches text .empty p p
  | set {s : CharSet} {p : Nat} {c : Char} (hc : text[p]? = some c) (hs : s.contains c = true) :
      Matches text (.set s) p (p + 1)
  | look {l : Look} {p : Nat} (h : l.holds text p = true) : Matches text (.look l) p p
  | seq {r s : Regex} {p q e : Nat} (hr : Matches text r p q) (hs : Matches text s q e) :
      Matches text (.seq r s) p e
  | altLeft {r s : Regex} {p q : Nat} (h : Matches text r p q) : Matches text (.alt r s) p q
  | altRight {r s : Regex} {p q : Nat} (h : Matches text s p q) : Matches text (.alt r s) p q
  | done {r : Regex} {most : Option Nat} {p : Nat} : Matches text (.rep r 0 most) p p
  | again {r : Regex} {least : Nat} {most : Option Nat} {p q e : Nat} (hm : most ≠ some 0)
      (hr : Matches text r p q) (hs : Matches text (.rep r (least - 1) (most.map (· - 1))) q e) :
      Matches text (.rep r least most) p e

/-- The positions where a match can end that starts at one of the given positions. -/
def ends (text : Array Char) : Regex → Positions → Positions
  | empty, starts => starts
  | set s, starts =>
      let here := Positions.upTo text.size fun p => (text[p]?.map s.contains).getD false
      (starts &&& here) <<< 1
  | look l, starts => starts &&& Positions.upTo text.size fun p => l.holds text p
  | seq r s, starts => ends text s (ends text r starts)
  | alt r s, starts => ends text r starts ||| ends text s starts
  | rep r least most, starts =>
      let set := iterate (ends text r) least starts
      match most with
      | none => Positions.closure (ends text r) (text.size + 1) set
      | some most =>
          iterate (fun set => set ||| ends text r set) (most - least) set

def isMatch (r : Regex) (text : String) : Bool :=
  let chars := text.toList.toArray
  ends chars r (Positions.all chars.size) != 0

end Regex

end Pattern

end StylePrune
