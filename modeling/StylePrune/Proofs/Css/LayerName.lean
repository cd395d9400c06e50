import StylePrune.Css.Rule.Reader
import StylePrune.Proofs.Css.Lexing

/-!
# Names of layers are read back

A layer that is written with nothing but its name, without white space at the end, and an
empty block is read as a layer with this name.
-/

namespace StylePrune

namespace Css

open Lexer (EndsPart IsIdent IsName Lexes StartsIdent isIdent_identText token_dot token_space)

/-! ## Text and tokens -/

/-- The text of a part of a name with these parts behind it. -/
def partText (part : String) (rest : List String) : List Char :=
  if rest.isEmpty then trimUnescaped (identText part).toList else (identText part).toList

/-- The text of more parts of a name, without white space at its end. -/
def tailText : List String → List Char
  | [] => []
  | part :: rest => '.' :: (partText part rest ++ tailText rest)

/-- The text between `@layer` and the block, without white space at its end. -/
def preludeText : List String → List Char
  | [] => []
  | part :: rest => ' ' :: (partText part rest ++ tailText rest)

def tailLexemes : List String → List Lexeme
  | [] => []
  | part :: rest => ⟨.delim '.', ['.']⟩ :: ⟨.ident part, partText part rest⟩ :: tailLexemes rest

def preludeLexemes : List String → List Lexeme
  | [] => []
  | part :: rest => ⟨.space, [' ']⟩ :: ⟨.ident part, partText part rest⟩ :: tailLexemes rest

theorem partText_of_ne_nil (part : String) {rest : List String} (h : rest ≠ []) :
    partText part rest = (identText part).toList :=
  if_neg (by simpa using h)

theorem tailText_snoc (front : List String) (last : String) :
    tailText (front ++ [last]) =
      '.' :: (front.flatMap (fun part => (identText part).toList ++ ['.']) ++
        trimUnescaped (identText last).toList) := by
  induction front with
  | nil => rw [List.nil_append, tailText, tailText, List.append_nil]; rfl
  | cons part rest ih =>
      rw [List.cons_append, tailText, ih, partText_of_ne_nil part (by simp), List.flatMap_cons,
        List.append_assoc, List.append_assoc]
      rfl

theorem preludeText_snoc (front : List String) (last : String) :
    preludeText (front ++ [last]) =
      ' ' :: (front.flatMap (fun part => (identText part).toList ++ ['.']) ++
        trimUnescaped (identText last).toList) := by
  cases front with
  | nil => rw [List.nil_append, preludeText, tailText, List.append_nil]; rfl
  | cons part rest =>
      rw [List.cons_append, preludeText, tailText_snoc, partText_of_ne_nil part (by simp),
        List.flatMap_cons, List.append_assoc, List.append_assoc]
      rfl

theorem isIdent_partText {part : String} (h : IsName part) (rest : List String) :
    IsIdent (partText part rest) part := by
  unfold partText
  split
  · exact (isIdent_identText h).2
  · exact (isIdent_identText h).1

theorem exists_tailText_append (rest : List String) (t : List Char) :
    ∃ d u, EndsPart d ∧ tailText rest ++ '\x7b' :: t = d :: u := by
  cases rest with
  | nil => exact ⟨_, _, .inr rfl, rfl⟩
  | cons part rest => exact ⟨_, _, .inl rfl, rfl⟩

theorem startsIdent_part {part : String} (h : IsName part) (rest : List String) (t : List Char) :
    StartsIdent (partText part rest ++ (tailText rest ++ '\x7b' :: t)) := by
  obtain ⟨d, u, hd, heq⟩ := exists_tailText_append rest t
  rw [heq]
  exact (isIdent_partText h rest).starts hd

theorem lexes_part {part : String} (h : IsName part) {rest : List String} {t : List Char}
    {xs : List Lexeme} (ht : Lexes (tailText rest ++ '\x7b' :: t) xs) :
    Lexes (partText part rest ++ (tailText rest ++ '\x7b' :: t))
      (⟨.ident part, partText part rest⟩ :: xs) := by
  obtain ⟨d, u, hd, heq⟩ := exists_tailText_append rest t
  rw [heq] at ht ⊢
  exact (isIdent_partText h rest).lexes hd ht

theorem lexes_tailText {rest : List String} (h : ∀ part ∈ rest, IsName part) {t : List Char}
    {xs : List Lexeme} (ht : Lexes ('\x7b' :: t) xs) :
    Lexes (tailText rest ++ '\x7b' :: t) (tailLexemes rest ++ xs) := by
  induction rest with
  | nil => exact ht
  | cons part rest ih =>
      obtain ⟨hpart, hrest⟩ := List.forall_mem_cons.mp h
      rw [tailText, List.cons_append, List.append_assoc]
      exact .char (token_dot (startsIdent_part hpart rest t)) (lexes_part hpart (ih hrest))

theorem lexes_preludeText {name : List String} (h : ∀ part ∈ name, IsName part) {t : List Char}
    {xs : List Lexeme} (ht : Lexes ('\x7b' :: t) xs) :
    Lexes (preludeText name ++ '\x7b' :: t) (preludeLexemes name ++ xs) := by
  cases name with
  | nil => exact ht
  | cons part rest =>
      obtain ⟨hpart, hrest⟩ := List.forall_mem_cons.mp h
      rw [preludeText, List.cons_append, List.append_assoc]
      exact .char (token_space (startsIdent_part hpart rest t))
        (lexes_part hpart (lexes_tailText hrest ht))

theorem token_layer (name : List String) (t : List Char) :
    Lexer.token '@' ("layer".toList ++ (preludeText name ++ '\x7b' :: t)) =
      (.atKeyword "layer", 6) := by
  have hname : Lexer.name ("layer".toList ++ (preludeText name ++ '\x7b' :: t)) =
      ("layer", 5) := by
    cases name <;> rfl
  have hstarts : Lexer.startsName ("layer".toList ++ (preludeText name ++ '\x7b' :: t)) = true := by
    rfl
  rw [Lexer.token, if_neg (by decide), if_neg (by decide), if_neg (by decide), if_pos rfl,
    if_pos hstarts, hname]

theorem lexes_layer {name : List String} (h : ∀ part ∈ name, IsName part) :
    Lexes ("@layer".toList ++ preludeText name ++ ['\x7b', '\x7d'])
      (⟨.atKeyword "layer", "@layer".toList⟩ :: preludeLexemes name ++
        [⟨.opening .curly, ['\x7b']⟩, ⟨.closing .curly, ['\x7d']⟩]) := by
  have hbraces : Lexes ['\x7b', '\x7d']
      [⟨.opening .curly, ['\x7b']⟩, ⟨.closing .curly, ['\x7d']⟩] :=
    .char rfl (.char rfl .nil)
  rw [List.append_assoc]
  exact .cons (u := "@layer".toList) (by decide) rfl (token_layer name _)
    (lexes_preludeText h hbraces)

/-! ## Components -/

namespace Component

def ofLexeme (x : Lexeme) : Component :=
  .token x.token x.text

def IsSingle (x : Lexeme) : Prop :=
  ∀ n : Nesting, n.add x = n.push (.ofLexeme x)

theorem foldl_add {xs : List Lexeme} (h : ∀ x ∈ xs, IsSingle x) (n : Nesting) :
    xs.foldl Nesting.add n = ⟨n.levels, (xs.map ofLexeme).reverse ++ n.items⟩ := by
  induction xs generalizing n with
  | nil => rfl
  | cons x rest ih =>
      obtain ⟨hx, hrest⟩ := List.forall_mem_cons.mp h
      rw [List.foldl_cons, hx, ih hrest]
      simp [Nesting.push]

end Component

/-- What holds of dots, names and spaces holds of every token in front of the block. -/
theorem forall_mem_preludeLexemes {p : Lexeme → Prop} (hdot : p ⟨.delim '.', ['.']⟩)
    (hspace : p ⟨.space, [' ']⟩) (hident : ∀ part text, p ⟨.ident part, text⟩)
    (name : List String) : ∀ x ∈ preludeLexemes name, p x := by
  have htail : ∀ rest, ∀ x ∈ tailLexemes rest, p x := by
    intro rest
    induction rest with
    | nil => nofun
    | cons part rest ih =>
        exact List.forall_mem_cons.mpr ⟨hdot, List.forall_mem_cons.mpr ⟨hident _ _, ih⟩⟩
  cases name with
  | nil => nofun
  | cons part rest =>
      exact List.forall_mem_cons.mpr
        ⟨hspace, List.forall_mem_cons.mpr ⟨hident _ _, htail rest⟩⟩

def prelude (name : List String) : List Component :=
  (preludeLexemes name).map .ofLexeme

theorem forall_mem_prelude {p : Component → Prop} (hdot : p (.token (.delim '.') ['.']))
    (hspace : p (.token .space [' '])) (hident : ∀ part text, p (.token (.ident part) text))
    (name : List String) : ∀ c ∈ prelude name, p c :=
  List.forall_mem_map.mpr
    (forall_mem_preludeLexemes (p := fun x => p (.ofLexeme x)) hdot hspace hident name)

theorem ofText_layer {name : List String} (h : ∀ part ∈ name, IsName part) :
    Component.ofText ("@layer".toList ++ preludeText name ++ ['\x7b', '\x7d']) =
      .token (.atKeyword "layer") "@layer".toList :: prelude name ++
        [.block .curly [] true] := by
  have hsingle : ∀ x ∈ ⟨.atKeyword "layer", "@layer".toList⟩ :: preludeLexemes name,
      Component.IsSingle x :=
    List.forall_mem_cons.mpr ⟨fun _ => rfl, forall_mem_preludeLexemes
      (p := Component.IsSingle) (fun _ => rfl) (fun _ => rfl) (fun _ _ _ => rfl) name⟩
  rw [Component.ofText, (lexes_layer h).tokens_eq, Component.ofLexemes, List.foldl_append,
    Component.foldl_add hsingle]
  -- The two brackets make an empty block at the end.
  change (Component.block .curly [] true :: (List.map Component.ofLexeme _).reverse ++ []).reverse =
    _
  rw [List.append_nil, List.reverse_cons, List.reverse_reverse]
  rfl

/-! ## Reading -/

namespace Reader

theorem bind_of_eq_ok {α β : Type} {r : Reader α} {f : α → Reader β} {s rest : List Component}
    {a : α} (h : r s = .ok (a, rest)) : (r >>= f) s = f a rest := by
  have hbind : (r >>= f) s = r s >>= fun p => f p.1 p.2 := rfl
  rw [hbind, h]
  rfl

theorem atMost_layerPart (rest : List String) {fuel : Nat} (h : (tailLexemes rest).length ≤ fuel) :
    atMost layerPart fuel ((tailLexemes rest).map .ofLexeme) = .ok (rest, []) := by
  induction rest generalizing fuel with
  | nil => cases fuel <;> rfl
  | cons part rest ih =>
      cases fuel with
      | zero => cases h
      | succ fuel =>
          have hlength : (tailLexemes rest).length ≤ fuel := by
            have hcons : (tailLexemes (part :: rest)).length = (tailLexemes rest).length + 2 := rfl
            omega
          have hmore : atMost layerPart (fuel + 1) ((tailLexemes (part :: rest)).map .ofLexeme) =
              (do return part :: (← atMost layerPart fuel)) ((tailLexemes rest).map .ofLexeme) :=
            rfl
          rw [hmore, bind_of_eq_ok (ih hlength)]
          rfl

theorem layerName_ident (part : String) (text : List Char) (rest : List String) :
    layerName (.token (.ident part) text :: (tailLexemes rest).map .ofLexeme) =
      .ok (part :: rest, []) := by
  have hread : layerName (.token (.ident part) text :: (tailLexemes rest).map .ofLexeme) =
      (do return part :: (← many layerPart)) ((tailLexemes rest).map .ofLexeme) := rfl
  have hmany : many layerPart ((tailLexemes rest).map .ofLexeme) = .ok (rest, []) :=
    atMost_layerPart rest (by rw [List.length_map])
  rw [hread, bind_of_eq_ok hmany]
  rfl

theorem splitCommas_eq {s : List Component} (h : ∀ c ∈ s, c.isComma = false) :
    Component.splitCommas s = [s] := by
  induction s with
  | nil => rfl
  | cons c rest ih =>
      obtain ⟨hc, hrest⟩ := List.forall_mem_cons.mp h
      rw [Component.splitCommas, hc, ih hrest]
      rfl

/-- What stands in front of the block is read as this one name, or as none. -/
theorem layerNames?_prelude (name : List String) :
    layerNames? (prelude name) = some (if name.isEmpty then [] else [name]) := by
  cases name with
  | nil => rfl
  | cons part rest =>
      have hname : all layerName (skipBlanks (prelude (part :: rest))) = .ok (part :: rest) := by
        change all layerName (.token (.ident part) _ :: (tailLexemes rest).map .ofLexeme) = _
        rw [all, layerName_ident]
        rfl
      have hcommas : Component.splitCommas (prelude (part :: rest)) = [prelude (part :: rest)] :=
        splitCommas_eq
          (forall_mem_prelude (p := fun c => c.isComma = false) rfl rfl (fun _ _ => rfl) _)
      have hread : commaSeparated layerName (prelude (part :: rest)) =
          .ok ([part :: rest], []) := by
        rw [commaSeparated, hcommas, allParts, hname]
        rfl
      have hlist : all (commaSeparated layerName) (prelude (part :: rest)) =
          .ok [part :: rest] := by
        rw [all, hread]
        rfl
      rw [layerNames?, if_neg nofun, all?, hlist]
      rfl

theorem atRule_layer (name : List String) :
    atRule "layer" (prelude name ++ [.block .curly [] true]) =
      (⟨"layer", prelude name, some []⟩, []) := by
  have hhead : ∀ c ∈ prelude name, (!endsHead c) = true :=
    forall_mem_prelude (p := fun c => (!endsHead c) = true) rfl rfl (fun _ _ => rfl) name
  rw [atRule, List.takeWhile_append_of_pos hhead, List.dropWhile_append_of_pos hhead,
    List.takeWhile_cons_of_neg (by simp [endsHead, Component.isCurly]),
    List.dropWhile_cons_of_neg (by simp [endsHead, Component.isCurly]), List.append_nil]

theorem lower_layer : Text.lower "layer" = "layer" := by
  decide +kernel

theorem nestedRule_layer (name : List String) (fuel : Nat) :
    nestedRule false (fuel + 2) ⟨"layer", prelude name, some []⟩ = some (.layer name []) := by
  rw [nestedRule]
  simp only [lower_layer, layerNames?_prelude, Option.bind_eq_bind, Option.bind_some]
  rw [ruleBody]
  cases name <;> rfl

theorem rules?_layer (name : List String) :
    rules? (.token (.atKeyword "layer") "@layer".toList :: prelude name ++
      [.block .curly [] true]) = some [.layer name []] := by
  rw [rules?]
  generalize 4 * Component.weight _ = fuel
  have hskip : skipCharset (.token (.atKeyword "layer") "@layer".toList ::
      (prelude name ++ [.block .curly [] true])) =
        .token (.atKeyword "layer") "@layer".toList ::
          (prelude name ++ [.block .curly [] true]) :=
    if_neg (by rw [lower_layer]; decide)
  rw [List.cons_append, hskip, rulesFrom, List.dropWhile_cons_of_neg (by decide)]
  dsimp only
  rw [atRule_layer]
  dsimp only
  rw [topRule]
  simp only [lower_layer]
  rw [nestedRule_layer]
  rfl

/-- A layer with an empty block is read as a layer with its name. -/
theorem rules?_ofText_layer {name : List String} (h : ∀ part ∈ name, IsName part) :
    rules? (Component.ofText ("@layer".toList ++ preludeText name ++ ['\x7b', '\x7d'])) =
      some [.layer name []] := by
  rw [ofText_layer h, rules?_layer]

end Reader

end Css

end StylePrune
