import StylePrune.Html.Builder

/-!
# Misnested formatting elements

End tags that close something else than the current element, and the way in which
formatting elements are moved into blocks that are opened inside them.
-/

namespace StylePrune

namespace Html

namespace Builder

/-- Whether an end tag finds its element before one that it does not look past. -/
def endTagMatches (name : String) : List Element → Bool
  | [] => false
  | e :: outer =>
      if named [name] e.name then true
      else if special e.name then false
      else endTagMatches name outer

/-- The rule for end tags that no other rule is about. -/
def closeOther (b : Builder) (name : String) : Builder :=
  if endTagMatches name b.stack then (b.impliedEndsExcept name).popUntilNamed name else b

/-- The outermost special element among those inside a formatting element. -/
def furthestBlock? (inside : List Element) : Option Element :=
  (inside.filter fun e => special e.name).getLast?

/-- Where the entry of a moved formatting element goes. -/
inductive Bookmark
  | replace (handle : Handle)
  | after (handle : Handle)

/-- Puts an entry in the place of a bookmark; `entry` replaces the one for `old`. -/
def placeEntry (b : Builder) (old : Handle) (entry : Formatting) : Bookmark → Builder
  | .replace handle =>
      { b with formatting := b.formatting.map fun f => if f.isFor handle then entry else f }
  | .after handle =>
      let formatting := b.formatting.flatMap fun f =>
        if f.isFor handle then [entry, f] else [f]
      { b with formatting := formatting.filter fun f => !f.isFor old }

/--
Goes from the furthest block outwards to the formatting element, over the elements `inner`
between them, and recreates the formatting elements among these.  The result holds the
elements that stay open, the innermost first.
-/
def recreateBetween (b : Builder) (count : Nat) (bookmark : Bookmark) (isFirst : Bool) :
    List Element → Builder × List Element × Bookmark
  | [] => (b, [], bookmark)
  | e :: outer =>
      match b.formatting.find? fun f => f.isFor e.handle with
      | some (.element _ tag) =>
          if count ≥ 3 then
            recreateBetween (b.removeFormatting e.handle) (count + 1) bookmark isFirst outer
          else
            let (new, b) := b.create ⟨.html, tag.name⟩ tag.attrs
            let b := { b with
              formatting := b.formatting.map fun f =>
                if f.isFor e.handle then .element new.handle tag else f }
            let bookmark := if isFirst then .after new.handle else bookmark
            let (b, elements, bookmark) := recreateBetween b (count + 1) bookmark false outer
            (b, new :: elements, bookmark)
      | _ => recreateBetween b (count + 1) bookmark isFirst outer

def moveInto (b : Builder) (formatting : Element) (tag : Tag) (block : Element) : Builder :=
  let isBlock (e : Element) : Bool := e.handle == block.handle
  let isFormatting (e : Element) : Bool := e.handle == formatting.handle
  let inner := b.stack.takeWhile fun e => !isBlock e
  let between := ((b.stack.dropWhile fun e => !isBlock e).drop 1).takeWhile fun e =>
    !isFormatting e
  let outer := (b.stack.dropWhile fun e => !isFormatting e).drop 1
  let (b, kept, bookmark) := b.recreateBetween 0 (.replace formatting.handle) true between
  let (new, b) := b.create ⟨.html, tag.name⟩ tag.attrs
  let b := b.placeEntry formatting.handle (.element new.handle tag) bookmark
  { b with stack := inner ++ new :: block :: (kept ++ outer) }

/-- One round of the adoption of elements by the formatting element `name`. -/
def adoptOnce (b : Builder) (name : String) : Builder × Bool :=
  let wanted : Formatting → Bool
    | .marker => false
    | .element _ tag => tag.name == name
  match b.sinceMarker.find? wanted with
  | some (.element handle tag) =>
      match b.stack.find? fun e => e.handle == handle with
      | none => (b.removeFormatting handle, false)
      | some e =>
          if !inScope defaultScope (fun x => x.handle == handle) b.stack then (b, false)
          else
            match furthestBlock? (b.stack.takeWhile fun x => x.handle != handle) with
            | none =>
                let stack := (b.stack.dropWhile fun x => x.handle != handle).drop 1
                ({ b.removeFormatting handle with stack }, false)
            | some block => (b.moveInto e tag block, true)
  | _ => (b.closeOther name, false)

def adoptRounds (b : Builder) (name : String) : Nat → Builder
  | 0 => b
  | rounds + 1 =>
      match b.adoptOnce name with
      | (b, true) => adoptRounds b name rounds
      | (b, false) => b

def adopt (b : Builder) (name : String) : Builder :=
  let isPlain := match b.stack with
    | e :: _ => named [name] e.name && !b.formatting.any fun f => f.isFor e.handle
    | [] => false
  if isPlain then b.pop else b.adoptRounds name 8

/-- Closes a link that is still open where another one starts. -/
def closeOpenLink (b : Builder) : Builder :=
  let isLink : Formatting → Bool
    | .marker => false
    | .element _ tag => tag.name == "a"
  match b.sinceMarker.find? isLink with
  | some (.element handle _) =>
      ((b.adopt "a").removeFormatting handle).removeOpen handle
  | _ => b

end Builder

end Html

end StylePrune
