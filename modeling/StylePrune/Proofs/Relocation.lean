import StylePrune.Proofs.Css.Declared
import StylePrune.Proofs.Tree.Leaves
import StylePrune.Proofs.Url.Reference
import StylePrune.Tree.Stylesheet

/-!
# Relocation

The text of a rule tree can be used elsewhere than the stylesheet it was read from: every
reference that the stylesheet declares stands in a leaf, relative to the directory of the
stylesheet, and one in a condition may stand in a header instead.  The target of an import is no
such reference and stays as it is.
-/

namespace StylePrune

namespace Css

open scoped List

/-- What stands before the block of a group of rules, and how the header is made from it. -/
structure Head where
  text : Printed
  /-- The header ends at the first bracket. -/
  cut : Bool

def Head.header (base : List Char) (h : Head) : String :=
  if h.cut then Node.headOf (h.text.write base).toList else Node.trimmedHeader (h.text.write base)

theorem Head.header_ofText (base : List Char) (s : String) (cut : Bool) :
    header base ⟨.ofText s, cut⟩ = if cut then Node.headOf s.toList else Node.trimmedHeader s := by
  rw [header, Printed.write_ofText]

namespace Rule

mutual

/-- The texts of the leaves that a rule becomes. -/
def leafTexts : Rule → List Printed
  | .media _ rules => leafTextsOf rules
  | .supports _ rules => leafTextsOf rules
  | .layer _ rules => leafTextsOf rules
  | .container _ _ rules => leafTextsOf rules
  | .document rules => leafTextsOf rules
  | r => [r.print .top]

def leafTextsOf : List Rule → List Printed
  | [] => []
  | r :: rest => leafTexts r ++ leafTextsOf rest

end

mutual

/-- The heads of a rule and of the rules in it that become groups, the outer ones first. -/
def heads : Rule → List Head
  | .media queries rules => ⟨mediaHead queries, false⟩ :: headsOf rules
  | .supports condition rules => ⟨.ofText ("@supports " ++ condition.print), false⟩ :: headsOf rules
  | .layer name rules => ⟨layerHead name, true⟩ :: headsOf rules
  | .container name condition rules => ⟨containerHead name condition, true⟩ :: headsOf rules
  | .document rules => ⟨documentHead, true⟩ :: headsOf rules
  | _ => []

def headsOf : List Rule → List Head
  | [] => []
  | r :: rest => heads r ++ headsOf rest

end

def headTargets (hs : List Head) : List String :=
  hs.flatMap fun h => Printed.targets h.text

variable {conditions : Bool} {xs ys zs xs' ys' zs' : List String}

/-- Targets that are split into those in texts and those in heads. -/
theorem subperm_append_onlyIf (h : xs <+~ ys ++ onlyIf conditions zs)
    (h' : xs' <+~ ys' ++ onlyIf conditions zs') :
    xs ++ xs' <+~ (ys ++ ys') ++ onlyIf conditions (zs ++ zs') := by
  have hperm : (ys ++ onlyIf conditions zs) ++ (ys' ++ onlyIf conditions zs') ~
      (ys ++ ys') ++ onlyIf conditions (zs ++ zs') := by
    rw [onlyIf_append, List.append_assoc, List.append_assoc]
    exact (List.perm_append_comm_assoc _ _ _).append_left ys
  exact (h.append h').trans hperm.subperm

theorem onlyIf_append_subperm (head : List String) (h : xs <+~ ys ++ onlyIf conditions zs) :
    onlyIf conditions head ++ xs <+~ ys ++ onlyIf conditions (head ++ zs) := by
  have hhead : onlyIf conditions head <+~ [] ++ onlyIf conditions head := .refl _
  exact subperm_append_onlyIf hhead h

variable (conditions)

mutual

/-- The leaves of a rule have all its targets, but for those in the heads around them. -/
theorem targets_subperm_leafTexts (r : Rule) :
    r.targets conditions <+~
      r.leafTexts.flatMap Printed.targets ++ onlyIf conditions (headTargets r.heads) := by
  have hleaf : r.targets conditions <+~
      [r.print .top].flatMap Printed.targets ++ onlyIf conditions (headTargets []) := by
    rw [List.flatMap_singleton]
    exact subperm_append_of_subperm_left _ (targets_subperm_print conditions .top r)
  cases r with
  | media queries rules =>
      rw [targets, leafTexts, heads, ← Printed.targets_mediaHead]
      exact onlyIf_append_subperm _ (targetsAll_subperm_leafTextsOf rules)
  | container name condition rules =>
      rw [targets, leafTexts, heads, ← Printed.targets_containerHead name]
      exact onlyIf_append_subperm _ (targetsAll_subperm_leafTextsOf rules)
  | supports _ rules | layer _ rules | document rules =>
      exact targetsAll_subperm_leafTextsOf rules
  | style | startingStyle | scope | other => exact hleaf

theorem targetsAll_subperm_leafTextsOf (rules : List Rule) :
    targetsAll conditions rules <+~ (leafTextsOf rules).flatMap Printed.targets ++
      onlyIf conditions (headTargets (headsOf rules)) := by
  cases rules with
  | nil => exact List.nil_subperm
  | cons r rest =>
      rw [targetsAll, leafTextsOf, headsOf, headTargets, List.flatMap_append, List.flatMap_append]
      exact subperm_append_onlyIf (targets_subperm_leafTexts r)
        (targetsAll_subperm_leafTextsOf rest)

end

end Rule

namespace Printed

theorem exists_append_of_mem_targets {p : Printed} {target : String} (h : target ∈ p.targets) :
    ∃ before after, p = before ++ .url target :: after := by
  obtain ⟨piece, hpiece, htarget⟩ := List.mem_filterMap.mp h
  cases piece with
  | text s => cases htarget
  | url other =>
      obtain rfl : other = target := Option.some.inj htarget
      exact List.append_of_mem hpiece

theorem write_append_url (base : List Char) (target : String) (before after : Printed) :
    write base (before ++ .url target :: after) =
      write base before ++ urlText (String.ofList (Url.rebase base target.toList)) ++
        write base after := by
  simp [Piece.write, String.append_assoc]

end Printed

end Css

namespace Node

open Css (Head Printed Rule)
open scoped List

mutual

/-- A leaf is written for the directory of the stylesheet. -/
theorem leaves_ofRule (base : List Char) (r : Rule) :
    (ofRule base r).leaves.map Leaf.css = r.leafTexts.map (Printed.write base) := by
  cases r with
  | media queries rules => exact leavesList_ofRules base rules
  | supports condition rules => exact leavesList_ofRules base rules
  | layer name rules => exact leavesList_ofRules base rules
  | container name condition rules => exact leavesList_ofRules base rules
  | document rules => exact leavesList_ofRules base rules
  | style selectors declarations rules => rfl
  | startingStyle rules => rfl
  | scope start stop rules => rfl
  | other text => rfl

theorem leavesList_ofRules (base : List Char) (rules : List Rule) :
    (leavesList (ofRules base rules)).map Leaf.css =
      (Rule.leafTextsOf rules).map (Printed.write base) := by
  cases rules with
  | nil => rfl
  | cons r rest =>
      rw [ofRules, leavesList, Rule.leafTextsOf, List.map_append, List.map_append,
        leaves_ofRule base r, leavesList_ofRules base rest]

end

mutual

def headers : Node → List String
  | leaf _ _ => []
  | container header rules => header :: headersList rules

def headersList : List Node → List String
  | [] => []
  | n :: rest => headers n ++ headersList rest

end

mutual

/-- A header is made from the head that is written for the directory of the stylesheet. -/
theorem headers_ofRule (base : List Char) (r : Rule) :
    (ofRule base r).headers = r.heads.map (Head.header base) := by
  cases r with
  | media _ rules | container _ _ rules =>
      rw [ofRule, headers, Rule.heads, List.map_cons, headersList_ofRules base rules]
      rfl
  | supports _ rules | layer _ rules | document rules =>
      rw [ofRule, headers, Rule.heads, List.map_cons, headersList_ofRules base rules,
        Head.header_ofText]
      rfl
  | style | startingStyle | scope | other => rfl

theorem headersList_ofRules (base : List Char) (rules : List Rule) :
    headersList (ofRules base rules) = (Rule.headsOf rules).map (Head.header base) := by
  cases rules with
  | nil => rfl
  | cons r rest =>
      rw [ofRules, headersList, Rule.headsOf, List.map_append, headers_ofRule base r,
        headersList_ofRules base rest]

end

/-- A reference in the fallback of a variable, in the condition of a medium. -/
example : (parse? "@media (x:env(a,url(y.png)))\x7b\x7d" "css/site.css").map headersList =
    some ["@media (x:env(a,url(css/y.png)))"] := by
  decide +kernel

def componentsOf (css : String) : List Css.Component :=
  Css.Component.ofText (withoutMark css.toList)

/--
The leaves and the headers of a stylesheet are made from the same texts for every URL but for
their references.  Among the references in leaves is every one that the stylesheet declares, as
often as it is declared; one in a condition is in a leaf or in the text of a header.  Where the
URL has a directory, each reference is written with the directory in front if it is relative, and
as it is if it is not; where the URL is not relative itself, no reference is.
-/
theorem parse?_relocates {css url : String} (h : (parse? css url).isSome = true) :
    ∃ (texts : List Printed) (heads : List Head),
      (∀ sheet : String, ∃ nodes, parse? css sheet = some nodes ∧
        (leavesList nodes).map Leaf.css = texts.map (Printed.write (Url.baseOf sheet.toList)) ∧
        headersList nodes = heads.map (Head.header (Url.baseOf sheet.toList))) ∧
      (∀ fuel, Css.Reader.declared false fuel (componentsOf css) <+~
        texts.flatMap Printed.targets) ∧
      (∀ fuel, Css.Reader.declared true fuel (componentsOf css) <+~
        texts.flatMap Printed.targets ++ Rule.headTargets heads) ∧
      ∀ sheet : String, Url.baseOf sheet.toList ≠ [] → ∀ target : String,
        ∃ written, Url.Relocated sheet.toList target.toList written ∧
          ∀ before after : Printed,
            Printed.write (Url.baseOf sheet.toList) (before ++ .url target :: after) =
              Printed.write (Url.baseOf sheet.toList) before ++
                Css.urlText (String.ofList written) ++
                Printed.write (Url.baseOf sheet.toList) after := by
  obtain ⟨nodes, hnodes⟩ := Option.isSome_iff_exists.mp h
  obtain ⟨rules, hrules, -⟩ := Option.bind_eq_some_iff.mp hnodes
  have hdeclared : ∀ conditions fuel, Css.Reader.declared conditions fuel (componentsOf css) <+~
      (Rule.leafTextsOf rules).flatMap Printed.targets ++
        Css.onlyIf conditions (Rule.headTargets (Rule.headsOf rules)) := by
    intro conditions fuel
    have hread := Css.Reader.declared_subperm conditions hrules fuel
    exact hread.trans (Rule.targetsAll_subperm_leafTextsOf conditions rules)
  refine ⟨Rule.leafTextsOf rules, Rule.headsOf rules, fun sheet => ?_, fun fuel => ?_,
    hdeclared true, fun sheet hbase target => ?_⟩
  · refine ⟨ofRules (Url.baseOf sheet.toList) rules, ?_, leavesList_ofRules _ rules,
      headersList_ofRules _ rules⟩
    rw [parse?, hrules]
    rfl
  · have hleaves := hdeclared false fuel
    rwa [Css.onlyIf_false, List.append_nil] at hleaves
  · exact ⟨_, Url.relocated_rebase hbase target.toList, Printed.write_append_url _ target⟩

/-- A stylesheet with a reference inside a grouping rule and one in a font. -/
def printSheet : String :=
  "@media print\x7b.a\x7bbackground:url(x.png)\x7d\x7d@font-face\x7bsrc:url(f.woff)\x7d"

theorem parse?_relocates_print :
    (parse? printSheet "site.css").isSome = true ∧
      Url.baseOf "https://example.com/css/site.css".toList ≠ [] ∧
      ∃ texts : List Printed,
        (∃ nodes, parse? printSheet "https://example.com/css/site.css" = some nodes ∧
          (leavesList nodes).map Leaf.css =
            texts.map (Printed.write "https://example.com/css/".toList)) ∧
        ∀ target ∈ ["x.png", "f.woff"], ∃ text ∈ texts, ∃ before after,
          text.write "https://example.com/css/".toList =
            before ++ Css.urlText ("https://example.com/css/" ++ target) ++ after := by
  have hparse : (parse? printSheet "site.css").isSome = true := by decide +kernel
  have hbase : Url.baseOf "https://example.com/css/site.css".toList =
      "https://example.com/css/".toList := by decide +kernel
  have hne : Url.baseOf "https://example.com/css/site.css".toList ≠ [] := by decide +kernel
  have hdeclared : ∀ target ∈ ["x.png", "f.woff"],
      target ∈ Css.Reader.declared false 9 (componentsOf printSheet) := by
    decide +kernel
  have hrelative : ∀ target ∈ ["x.png", "f.woff"], Url.isRelative target.toList = true ∧
      String.ofList ("https://example.com/css/".toList ++ Text.trim target.toList) =
        "https://example.com/css/" ++ target := by
    decide +kernel
  obtain ⟨texts, heads, hsame, hall, -, hwritten⟩ := parse?_relocates hparse
  obtain ⟨nodes, hnodes, hleaves, -⟩ := hsame "https://example.com/css/site.css"
  rw [hbase] at hleaves
  refine ⟨hparse, hne, texts, ⟨nodes, hnodes, hleaves⟩, fun target htarget => ?_⟩
  have hprinted := (hall 9).subset (hdeclared target htarget)
  obtain ⟨text, htext, hmem⟩ := List.mem_flatMap.mp hprinted
  obtain ⟨before, after, rfl⟩ := Printed.exists_append_of_mem_targets hmem
  obtain ⟨written, hrelocated, hwrite⟩ :=
    hwritten "https://example.com/css/site.css" hne target
  obtain ⟨hrel, htrim⟩ := hrelative target htarget
  rw [hrelocated.of_isRelative hrel, hbase, htrim] at hwrite
  exact ⟨_, htext, _, _, hwrite before after⟩

/-- The target of an import stays relative although the stylesheet has a directory. -/
theorem parse?_import_stays_relative :
    Url.isRelative "print.css".toList = true ∧
      Url.baseOf "http://example.com/css/site.css".toList = "http://example.com/css/".toList ∧
      (parse? "@import url(print.css);" "http://example.com/css/site.css").map
        (fun nodes => (leavesList nodes).map Leaf.css) = some ["@import \"print.css\";"] ∧
      ¬ "http://example.com/css/print.css".toList <:+: "@import \"print.css\";".toList := by
  decide +kernel

end Node

end StylePrune
