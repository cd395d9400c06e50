import StylePrune.Proofs.Tree.Rendering

/-!
# Rendering in context

A rule tree with a hole, and what stands around the hole when the tree is rendered.
-/

namespace StylePrune

open Selector (Descriptor)

namespace Node

/-- The nodes of a tree around a hole. -/
inductive Context
  /-- The hole is among these nodes. -/
  | here (before after : List Node)
  /-- The hole is inside a grouping rule among these nodes. -/
  | inside (before : List Node) (header : String) (rules : Context) (after : List Node)

namespace Context

def fill : Context → Node → List Node
  | here before after, n => before ++ n :: after
  | inside before header rules after, n => before ++ container header (rules.fill n) :: after

def render (keep : List Descriptor → Bool) : Context → Rendering → Rendering
  | here before after, r => renderList keep before ++ (r ++ renderList keep after)
  | inside before header rules after, r =>
      renderList keep before ++ ((rules.render keep r).wrap header ++ renderList keep after)

theorem renderList_fill (keep : List Descriptor → Bool) (context : Context) (n : Node) :
    renderList keep (context.fill n) = context.render keep (n.render keep) := by
  induction context with
  | here before after => rw [fill, renderList_append, renderList, render]
  | inside before header rules after ih =>
      rw [fill, renderList_append, renderList, Node.render, ih, render]

theorem infix_wrap (header : String) (r : Rendering) :
    r.css.toList <:+: (r.wrap header).css.toList := by
  unfold Rendering.wrap
  split
  · exact List.infix_rfl
  · exact ⟨(header ++ " \x7b ").toList, " \x7d".toList, by simp⟩

/-- The text in the hole is in the text of the tree. -/
theorem infix_render (keep : List Descriptor → Bool) (context : Context) (r : Rendering) :
    r.css.toList <:+: (context.render keep r).css.toList := by
  induction context with
  | here before after =>
      exact ⟨(renderList keep before).css.toList, (renderList keep after).css.toList, by
        simp [render, Rendering.append_eq]⟩
  | inside before header rules after ih =>
      refine (ih.trans (infix_wrap header _)).trans ?_
      exact ⟨(renderList keep before).css.toList, (renderList keep after).css.toList, by
        simp [render, Rendering.append_eq]⟩

end Context

end Node

end StylePrune
