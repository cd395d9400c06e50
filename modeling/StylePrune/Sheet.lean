import StylePrune.Tree.Stylesheet

/-!
# Stylesheets with a memory

A stylesheet keeps the rule tree of its text once it has been read.  Later changes of the
text or the URL do not change the tree.
-/

namespace StylePrune

structure Sheet where
  id : String
  /-- Where it was loaded from. -/
  url : String
  content : String
  /-- The rule tree, if it has been read. -/
  tree : Option (List Node)
  /-- What the last pruning left. -/
  output : Option String

namespace Sheet

def new (id url content : String) : Sheet :=
  ⟨id, url, content, none, none⟩

/-- The id of the element that carries the pruned text. -/
def renderId (s : Sheet) : String :=
  "debloat-css-" ++ s.id

def isParsed (s : Sheet) : Bool :=
  s.tree.isSome

/-- The rule tree, or the error if it has to be read and cannot be. -/
def rules (s : Sheet) : Except Node.ParseError (List Node) :=
  match s.tree with
  | some rules => .ok rules
  | none => Node.parse s.content s.url

def rules? (s : Sheet) : Option (List Node) :=
  s.rules.toOption

/-- The stylesheet after its rule tree was asked for. -/
def remember (s : Sheet) : Sheet :=
  { s with tree := s.rules? }

/-- A tree that is there is not read again. -/
theorem rules_of_tree {s : Sheet} {rules : List Node} (h : s.tree = some rules) :
    s.rules = .ok rules := by
  simp [Sheet.rules, h]

theorem rules?_of_tree {s : Sheet} {rules : List Node} (h : s.tree = some rules) :
    s.rules? = some rules := by
  rw [rules?, rules_of_tree h]
  rfl

theorem rules?_of_tree_eq_none {s : Sheet} (h : s.tree = none) :
    s.rules? = Node.parse? s.content s.url := by
  simp [rules?, Sheet.rules, h]

/-- Asking again gives the same answer. -/
@[simp] theorem rules_remember (s : Sheet) : s.remember.rules = s.rules := by
  obtain ⟨id, url, content, tree, output⟩ := s
  cases tree with
  | some rules => rfl
  | none =>
      simp only [remember, rules?, rules, Node.toOption_parse]
      unfold Node.parse
      cases Node.parse? content url <;> rfl

end Sheet

end StylePrune
