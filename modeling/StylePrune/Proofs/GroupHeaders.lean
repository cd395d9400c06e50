import StylePrune.Proofs.Css.Condition
import StylePrune.Proofs.Css.LayerName
import StylePrune.Tree.Stylesheet

/-!
# Headers of groups

The header of a group of rules is cut from its printed form at the first curly bracket and
trimmed.  It is whole as long as no name has such a bracket or ends in a blank that is printed
as it is: then the header in front of a block is the printed form of a rule with the same name
and condition, and the name is read back from it.
-/

namespace StylePrune

namespace Css

open Text
open Selector (printLetters printLetters_append printLetters_singleton)

namespace Printed

theorem write_braced (base : List Char) (head body : Printed) :
    (braced head body).write base =
      head.write base ++ "\x7b" ++ body.write base ++ "\x7d" := by
  simp [braced, String.append_assoc]

/-- Text without references is the same everywhere. -/
theorem write_eq_of_targets_eq_nil {p : Printed} (h : p.targets = []) (base base' : List Char) :
    p.write base = p.write base' := by
  induction p with
  | nil => rw [write_nil, write_nil]
  | cons x rest ih =>
      cases x with
      | text s =>
          rw [targets_text] at h
          rw [write_cons, write_cons, Piece.write_text, Piece.write_text, ih h]
      | url target =>
          rw [targets_url] at h
          exact absurd h (List.cons_ne_nil _ _)

end Printed

/-- What a group of rules is for. -/
inductive Grouping
  | layer (name : List String)
  | container (name : Option String) (condition : Condition)
  | document

namespace Grouping

def rule (rules : List Rule) : Grouping → Rule
  | layer name => .layer name rules
  | container name condition => .container name condition rules
  | document => .document rules

/-- What stands before the block of the printed rule. -/
def head : Grouping → Printed
  | layer name => layerHead name
  | container name condition => containerHead name condition
  | document => documentHead

/-- A blank that stands in a printed identifier, as it is or behind a backslash. -/
def IsPrintedBlank (c : Char) : Prop :=
  isBlank c = true ∧ 0x20 ≤ c.toNat

/-- Nothing in the name or in the condition is taken for the block or for white space, where
references are written relative to `base`. -/
def IsPlain (base : List Char) : Grouping → Prop
  | layer name => (∀ part ∈ name, '\x7b' ∉ part.toList) ∧
      ∀ part ∈ name.getLast?, ∀ c ∈ part.toList.getLast?, ¬IsPrintedBlank c
  | container name condition => (∀ part ∈ name, '\x7b' ∉ part.toList) ∧
      '\x7b' ∉ ((condition.print .comparisons).write base).toList
  | document => True

theorem print_rule (g : Grouping) (style : SelectorStyle) (rules : List Rule) :
    (g.rule rules).print style = braced g.head (Rule.printAll style rules) := by
  cases g <;> · rw [rule, Rule.print]; rfl

theorem ofRule_rule (g : Grouping) (base : List Char) (rules : List Rule) :
    Node.ofRule base (g.rule rules) =
      .container (Node.headOf (g.head.write base).toList) (Node.ofRules base rules) := by
  cases g with
  | layer | document => rw [rule, Node.ofRule, head, Printed.write_ofText]
  | container => rw [rule, Node.ofRule, head]

end Grouping

/-! ## Headers and heads -/

theorem not_mem_brace_headOf (s : List Char) : '\x7b' ∉ (Node.headOf s).toList := by
  rw [Node.headOf, String.toList_ofList]
  intro h
  have hne := List.mem_takeWhile_imp (mem_of_mem_trim h)
  cases hne

/-- A header is the head without the white space at its end unless the head has a bracket or
ends in a blank that is part of a name. -/
theorem headOf_eq_iff {s : List Char} (hs : s.head? = some '@') :
    (Node.headOf s).toList = trimUnescaped s ↔
      '\x7b' ∉ s ∧ ∀ c ∈ (trimUnescaped s).getLast?, isBlank c = false := by
  obtain ⟨rest, rfl⟩ := List.head?_eq_some_iff.mp hs
  by_cases hmem : '\x7b' ∈ '@' :: rest
  · refine iff_of_false (fun h => ?_) fun h => h.1 hmem
    have hhead := not_mem_brace_headOf ('@' :: rest)
    rw [h, mem_trimUnescaped_iff (by decide)] at hhead
    exact hhead hmem
  · have hall : ('@' :: rest).takeWhile (· != '\x7b') = '@' :: rest := by
      refine List.takeWhile_eq_self_iff.mpr fun c hc => ?_
      rw [bne_iff_ne]
      rintro rfl
      exact hmem hc
    rw [Node.headOf, String.toList_ofList, hall, trim_eq_trimEnd,
      dropBlanks_cons_of_not_isBlank (by decide), trimEnd_eq_trimUnescaped_iff,
      and_iff_right hmem]

/-! ## Heads of layers -/

theorem layerText_snoc (front : List String) (last : String) :
    (layerText (front ++ [last])).toList =
      front.flatMap (fun part => (identText part).toList ++ ['.']) ++ (identText last).toList := by
  rw [layerText, String.toList_intercalate]
  induction front with
  | nil => simp [List.intercalate]
  | cons part rest ih =>
      rw [List.flatMap_cons, List.append_assoc, ← ih]
      cases rest <;> simp [List.intercalate]

theorem units_layerText_front (front : List String) :
    Units (front.flatMap fun part => (identText part).toList ++ ['.']) := by
  induction front with
  | nil => exact .nil
  | cons part rest ih =>
      rw [List.flatMap_cons]
      exact ((units_identText part).append (.plain (by decide) .nil)).append ih

theorem mem_brace_layerHead_iff (name : List String) :
    '\x7b' ∈ (layerHead name).toList ↔ ∃ part ∈ name, '\x7b' ∈ part.toList := by
  rcases List.eq_nil_or_concat name with rfl | ⟨front, last, rfl⟩
  · exact iff_of_false (by decide) (by simp)
  · rw [List.concat_eq_append, layerHead, if_neg (by simp), String.toList_append, layerText_snoc]
    simp [mem_brace_identText_iff, or_and_right, exists_or]

/-- A printed identifier behind other units ends in a blank if the name does. -/
theorem isBlank_getLast?_identText_iff {s : List Char} (hs : Units s) {name : String}
    {front : List Char} {c : Char} (hname : name.toList = front ++ [c]) :
    (∀ b ∈ (trimUnescaped (s ++ (identText name).toList)).getLast?, isBlank b = false) ↔
      ¬Grouping.IsPrintedBlank c := by
  have hwrites := forall_writes_nameLetters name.toList
  rw [hname] at hwrites
  obtain ⟨ls, l, hls, hl⟩ := exists_snoc_of_writes hwrites
  have htext : (identText name).toList = printLetters ls ++ l.print := by
    rw [identText, String.toList_ofList, ← printLetters_nameLetters, hname, hls,
      printLetters_append, printLetters_singleton]
  obtain ⟨b, t, hb⟩ := l.withoutGap.print_eq_cons
  rw [htext, ← List.append_assoc, (hs.append (units_printLetters ls)).trimUnescaped_append_letter,
    List.getLast?_append_of_ne_nil _ (by rw [hb]; exact List.cons_ne_nil b t),
    isBlank_getLast?_withoutGap_iff, ← Bool.not_eq_true, hl.isWrittenBlank_iff]
  rfl

/-- What stands in front of the last part of a layer's name. -/
def layerLead (front : List String) : List Char :=
  "@layer ".toList ++ front.flatMap fun part => (identText part).toList ++ ['.']

theorem units_layerLead (front : List String) : Units (layerLead front) :=
  (Units.of_not_mem (by decide)).append (units_layerText_front front)

theorem layerHead_snoc (front : List String) (last : String) :
    (layerHead (front ++ [last])).toList = layerLead front ++ (identText last).toList := by
  rw [layerHead, if_neg (by simp), String.toList_append, layerText_snoc, ← List.append_assoc]
  rfl

theorem isBlank_getLast?_of_eq {s : List Char} {c : Char} (h : s.getLast? = some c)
    (hc : isBlank c = false) : ∀ b ∈ s.getLast?, isBlank b = false := by
  rw [h]
  rintro b ⟨⟩
  exact hc

theorem getLast?_trimUnescaped_snoc {c : Char} (hc : isBlank c = false) (s : List Char) :
    (trimUnescaped (s ++ [c])).getLast? = some c := by
  have hspace : Lexer.isSpace c = false := by
    rw [← Bool.not_eq_true] at hc ⊢
    exact mt isBlank_of_isSpace hc
  rw [trimUnescaped_snoc hspace, List.getLast?_concat]

/-- In front of the last part of a name stands a dot, or a space that is trimmed. -/
theorem isBlank_getLast?_layerLead (front : List String) :
    ∀ b ∈ (trimUnescaped (layerLead front)).getLast?, isBlank b = false := by
  rcases List.eq_nil_or_concat front with rfl | ⟨init, part, rfl⟩
  · have hlead : trimUnescaped (layerLead []) = "@laye".toList ++ ['r'] := by
      unfold layerLead
      rw [List.flatMap_nil, List.append_nil]
      decide
    exact isBlank_getLast?_of_eq (by rw [hlead, List.getLast?_concat]) (c := 'r') (by decide)
  · have hlead : layerLead (init ++ [part]) =
        (layerLead init ++ (identText part).toList) ++ ['.'] := by
      unfold layerLead
      rw [List.flatMap_append, List.flatMap_singleton, List.append_assoc, List.append_assoc]
    rw [List.concat_eq_append, hlead]
    exact isBlank_getLast?_of_eq (getLast?_trimUnescaped_snoc (by decide) _) (by decide)

theorem isBlank_getLast?_layerHead_iff (name : List String) :
    (∀ b ∈ (trimUnescaped (layerHead name).toList).getLast?, isBlank b = false) ↔
      ∀ part ∈ name.getLast?, ∀ c ∈ part.toList.getLast?, ¬Grouping.IsPrintedBlank c := by
  rcases List.eq_nil_or_concat name with rfl | ⟨front, last, rfl⟩
  · refine iff_of_true ?_ nofun
    have hlast := getLast?_trimUnescaped_snoc (c := 'r') (by decide) "@laye".toList
    exact isBlank_getLast?_of_eq hlast (by decide)
  · rw [List.concat_eq_append, layerHead_snoc, List.getLast?_concat]
    simp only [Option.mem_some_iff, forall_eq']
    rcases List.eq_nil_or_concat last.toList with hlast | ⟨init, c, hlast⟩
    · rw [hlast, String.toList_eq_nil_iff.mp hlast]
      refine iff_of_true ?_ nofun
      rw [show (identText "").toList = [] from rfl, List.append_nil]
      exact isBlank_getLast?_layerLead front
    · rw [List.concat_eq_append] at hlast
      rw [isBlank_getLast?_identText_iff (units_layerLead front) hlast, hlast,
        List.getLast?_concat]
      simp only [Option.mem_some_iff, forall_eq']

/-- A layer's head without the white space at its end, if stylesheets can have the name. -/
theorem trimUnescaped_layerHead {name : List String} (h : ∀ part ∈ name, Lexer.IsName part) :
    trimUnescaped (layerHead name).toList = "@layer".toList ++ preludeText name := by
  rcases List.eq_nil_or_concat name with rfl | ⟨front, last, rfl⟩
  · decide
  · rw [List.concat_eq_append] at h ⊢
    have hlast := (Lexer.isIdent_identText (h last (by simp))).2.ne_nil
    rw [layerHead_snoc, (units_layerLead front).trimUnescaped_append hlast, preludeText_snoc]
    rfl

/-! ## Heads of containers -/

theorem mem_brace_containerHead_iff (base : List Char) (name : Option String)
    (condition : Condition) :
    '\x7b' ∈ ((containerHead name condition).write base).toList ↔
      (∃ part ∈ name, '\x7b' ∈ part.toList) ∨
        '\x7b' ∈ ((condition.print .comparisons).write base).toList := by
  cases name with
  | none => simp [containerHead]
  | some part => simp [containerHead, mem_brace_identText_iff]

/-- The head of a container ends in a parenthesis. -/
theorem isBlank_getLast?_containerHead (base : List Char) (name : Option String)
    {condition : Condition} (h : condition.IsClosed) :
    ∀ b ∈ (trimUnescaped ((containerHead name condition).write base).toList).getLast?,
      isBlank b = false := by
  have hhead : EndsClosed (containerHead name condition) := endsClosed_append [.text _] h
  obtain ⟨t, ht⟩ := hhead base
  rw [ht]
  exact isBlank_getLast?_of_eq (getLast?_trimUnescaped_snoc (by decide) t) (by decide)

/-- The head of rules for one browser has nothing to cut or to trim. -/
theorem not_mem_brace_documentHead :
    '\x7b' ∉ documentHead.toList ∧
      ∀ b ∈ (trimUnescaped documentHead.toList).getLast?, isBlank b = false := by
  have hhead : documentHead.toList = "@-moz-document url-prefix(".toList ++ [')'] := by decide
  refine ⟨by decide, ?_⟩
  rw [hhead]
  exact isBlank_getLast?_of_eq (getLast?_trimUnescaped_snoc (by decide) _) (by decide)

/-! ## Groups that are read -/

namespace Grouping

/-- The condition is printed up to a closing parenthesis, if there is one. -/
def IsClosed : Grouping → Prop
  | container _ condition => condition.IsClosed
  | _ => True

theorem head?_head (g : Grouping) (base : List Char) :
    (g.head.write base).toList.head? = some '@' := by
  cases g with
  | layer name =>
      rw [head, Printed.write_ofText, layerHead]
      split
      · rfl
      · rw [String.toList_append]
        rfl
  | container name condition =>
      unfold head containerHead
      rw [Printed.write_cons, Piece.write_text, String.append_assoc, String.toList_append]
      rfl
  | document => rw [head, Printed.write_ofText]; rfl

theorem headOf_head_iff {g : Grouping} (h : g.IsClosed) (base : List Char) :
    (Node.headOf (g.head.write base).toList).toList = trimUnescaped (g.head.write base).toList ↔
      g.IsPlain base := by
  rw [headOf_eq_iff (g.head?_head base)]
  cases g with
  | layer name =>
      rw [head, Printed.write_ofText]
      refine and_congr ?_ (isBlank_getLast?_layerHead_iff name)
      rw [mem_brace_layerHead_iff]
      simp only [not_exists, not_and]
  | container name condition =>
      rw [head, and_iff_left (isBlank_getLast?_containerHead base name h),
        mem_brace_containerHead_iff, not_or]
      simp only [not_exists, not_and]
      rfl
  | document =>
      rw [head, Printed.write_ofText]
      exact iff_of_true not_mem_brace_documentHead trivial

theorem isClosed_of_nestedRule {inStyle : Bool} {fuel : Nat} {r : AtRule} {g : Grouping}
    {rules : List Rule} (h : Reader.nestedRule inStyle fuel r = some (g.rule rules)) :
    g.IsClosed := by
  cases g with
  | layer name => trivial
  | container name condition => exact ReadsClosed.nestedRule inStyle fuel r name condition rules h
  | document => trivial

/-- The group has no condition, and stylesheets can have its name. -/
def IsNamed : Grouping → Prop
  | layer name => ∀ part ∈ name, Lexer.IsName part
  | container _ _ => False
  | document => True

/-- Rules for one browser that hold nothing are all that was read. -/
def isBareDocument : Option (List Rule) → Bool
  | some [.document []] => true
  | _ => false

theorem eq_of_isBareDocument {read : Option (List Rule)} (h : isBareDocument read = true) :
    read = some [.document []] := by
  unfold isBareDocument at h
  split at h
  · rfl
  · cases h

theorem rules?_document :
    Reader.rules? (Component.ofText ("@-moz-document url-prefix()".toList ++ ['\x7b', '\x7d'])) =
      some [.document []] :=
  eq_of_isBareDocument (by decide +kernel)

/-- The header of a group without a condition is read as the group, in front of a block. -/
theorem rules?_header {g : Grouping} (hnamed : g.IsNamed) {base header : List Char}
    (h : header = trimUnescaped (g.head.write base).toList) :
    Reader.rules? (Component.ofText (header ++ ['\x7b', '\x7d'])) = some [g.rule []] := by
  subst h
  cases g with
  | layer name =>
      rw [head, Printed.write_ofText, trimUnescaped_layerHead hnamed]
      exact Reader.rules?_ofText_layer hnamed
  | container => exact hnamed.elim
  | document =>
      have hhead : trimUnescaped documentHead.toList =
          "@-moz-document url-prefix()".toList := by decide
      rw [head, Printed.write_ofText, hhead]
      exact rules?_document

/-- In front of a block, the header and the white space that it lost are the head. -/
theorem exists_write_print_eq {g : Grouping} {base : List Char} {header : String}
    (h : header.toList = trimUnescaped (g.head.write base).toList) :
    ∃ blanks : List Char, (∀ c ∈ blanks, Lexer.isSpace c = true) ∧
      ∀ (style : SelectorStyle) (rules : List Rule),
        ((g.rule rules).print style).write base =
          header ++ String.ofList blanks ++ "\x7b" ++ (Rule.printAll style rules).write base ++
            "\x7d" := by
  obtain ⟨blanks, hblanks, hhead⟩ := exists_eq_trimUnescaped_append (g.head.write base).toList
  refine ⟨blanks, hblanks, fun style rules => ?_⟩
  have hheader : g.head.write base = header ++ String.ofList blanks := by
    rw [← String.toList_inj, String.toList_append, String.toList_ofList, h, ← hhead]
  rw [print_rule, Printed.write_braced, ← hheader]

/--
The header of a group that is read is its head without the white space at the end exactly if no
name and no condition has a bracket and the name does not end in a blank that is printed as it
is.  In front of a block the header is then the text of a group with this name and condition,
and a group without a condition is read back from it.  The header depends on where references
are written only if the condition has some.
-/
theorem ofRule_of_nestedRule {inStyle : Bool} {fuel : Nat} {r : AtRule} {g : Grouping}
    {rules : List Rule} (h : Reader.nestedRule inStyle fuel r = some (g.rule rules)) :
    ∃ header : List Char → String,
      (∀ base, Node.ofRule base (g.rule rules) =
        .container (header base) (Node.ofRules base rules)) ∧
      (g.head.targets = [] → ∀ base, header base = header []) ∧
      ∀ base,
        ((header base).toList = trimUnescaped (g.head.write base).toList ↔ g.IsPlain base) ∧
        (g.IsPlain base → ∃ blanks : List Char, (∀ c ∈ blanks, Lexer.isSpace c = true) ∧
          ∀ (style : SelectorStyle) (others : List Rule),
            ((g.rule others).print style).write base =
              header base ++ String.ofList blanks ++ "\x7b" ++
                (Rule.printAll style others).write base ++ "\x7d") ∧
        (g.IsPlain base → g.IsNamed →
          Reader.rules? (Component.ofText ((header base).toList ++ ['\x7b', '\x7d'])) =
            some [g.rule []]) := by
  have hiff := headOf_head_iff (isClosed_of_nestedRule h)
  refine ⟨fun base => Node.headOf (g.head.write base).toList, fun base => ofRule_rule g base rules,
    fun hsilent base => ?_, fun base => ⟨hiff base, fun hplain => ?_, fun hplain hnamed => ?_⟩⟩
  · dsimp only
    rw [Printed.write_eq_of_targets_eq_nil hsilent base []]
  · exact exists_write_print_eq ((hiff base).mpr hplain)
  · exact rules?_header hnamed ((hiff base).mpr hplain)

/-- The space that ends the number of a control character is not part of the header. -/
theorem ofRule_of_nestedRule_control :
    Reader.nestedRule false 2
        ⟨"layer", [.token .space [' '], .token (.ident "a b\x01") "a\\ b\\1".toList], some []⟩ =
      some ((layer ["a b\x01"]).rule []) ∧
    ∃ header : String, header.toList = "@layer a\\ b\\1".toList ∧
      (∀ base, Node.ofRule base ((layer ["a b\x01"]).rule []) = .container header []) ∧
      Reader.rules? (Component.ofText (header.toList ++ ['\x7b', '\x7d'])) =
        some [(layer ["a b\x01"]).rule []] := by
  have hread : Reader.nestedRule false 2
      ⟨"layer", [.token .space [' '], .token (.ident "a b\x01") "a\\ b\\1".toList], some []⟩ =
        some ((layer ["a b\x01"]).rule []) := by
    with_unfolding_all rfl
  have hplain : (layer ["a b\x01"]).IsPlain [] := by
    refine ⟨by decide, ?_⟩
    rintro part ⟨⟩ c ⟨⟩
    exact fun h => absurd h.2 (by decide)
  have hnamed : (layer ["a b\x01"]).IsNamed :=
    List.forall_mem_singleton.mpr ⟨by decide, by simp⟩
  obtain ⟨header, hnode, hsame, hheader⟩ := ofRule_of_nestedRule hread
  obtain ⟨hiff, -, hback⟩ := hheader []
  refine ⟨hread, header [], ?_, fun base => ?_, hback hplain hnamed⟩
  · rw [hiff.mpr hplain]
    decide
  · rw [hnode base, hsame rfl base]
    rfl

/-- A bracket in the name of a layer ends the header in the middle of its escape. -/
theorem ofRule_of_nestedRule_bracket :
    Reader.nestedRule false 2
        ⟨"layer", [.token .space [' '], .token (.ident "a\x7bb") "a\\\x7bb".toList], some []⟩ =
      some ((layer ["a\x7bb"]).rule []) ∧
    trimUnescaped ((layer ["a\x7bb"]).head.write []).toList = "@layer a\\\x7bb".toList ∧
    ∀ base, Node.ofRule base ((layer ["a\x7bb"]).rule []) = .container "@layer a\\" [] := by
  refine ⟨?_, by decide, fun base => ?_⟩
  · with_unfolding_all rfl
  · with_unfolding_all rfl

end Grouping

end Css

end StylePrune
