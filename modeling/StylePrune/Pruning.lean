import StylePrune.Sheet
import StylePrune.Tree.Rendering

/-!
# Pruning

Pruning takes the rules out of a stylesheet that match nothing on the page.  It never fails:
where the rules cannot be told, the text of the stylesheet stays as it is.
-/

namespace StylePrune

/-- What is kept whatever is on a page. -/
structure Settings where
  catalog : Catalog := .full
  /-- The critical entries come before every allow list. -/
  preserveCritical : Bool := true

namespace Settings

/-- The allow list that is in force. -/
def entries (settings : Settings) (allow : List Allow.Entry) : List Allow.Entry :=
  if settings.preserveCritical then Allow.Entry.criticalDefaults ++ allow else allow

end Settings

/-- What is known of the pages that use a stylesheet. -/
structure Usage where
  profile : Profile
  allow : List Allow.Entry

/-- An account of a pruning; sizes are in bytes. -/
structure Report where
  originalSize : Nat
  outputSize : Nat
  kept : Nat
  dropped : Nat
  /-- The text stayed as it was because the rules could not be told. -/
  fellBack : Bool
  deriving BEq, DecidableEq, Repr

structure Pruned where
  css : String
  report : Report
  deriving BEq, DecidableEq, Repr

namespace Pruned

def unchanged (content : String) : Pruned :=
  ⟨content, ⟨content.utf8ByteSize, content.utf8ByteSize, 0, 0, true⟩⟩

def ofRendering (content : String) (r : Rendering) : Pruned :=
  ⟨r.css, ⟨content.utf8ByteSize, r.css.utf8ByteSize, r.kept, r.dropped, false⟩⟩

end Pruned

namespace Sheet

def allowRules (engine : Allow.Engine) (s : Sheet) (entries : List Allow.Entry) :
    Except Allow.PatternError (List Allow.Rule) :=
  Allow.compile engine entries s.id s.url

def inclusion (settings : Settings) (usage : Usage) (allow : List Allow.Rule) : Inclusion :=
  ⟨usage.profile.withCatalog settings.catalog, settings.catalog, allow⟩

/-- The pruned text, and the stylesheet after the pruning. -/
def prune (engine : Allow.Engine) (settings : Settings) (usage : Usage) (s : Sheet) :
    Pruned × Sheet :=
  match s.allowRules engine (settings.entries usage.allow) with
  | .error _ => (.unchanged s.content, { s with output := some s.content })
  | .ok allow =>
      match s.rules? with
      | none => (.unchanged s.content, { s with output := some s.content })
      | some rules =>
          let r := (inclusion settings usage allow).render rules
          (.ofRendering s.content r, { s with tree := some rules, output := some r.css })

def pruneAll (engine : Allow.Engine) (settings : Settings) (usage : Usage) (sheets : List Sheet) :
    List (Pruned × Sheet) :=
  sheets.map (prune engine settings usage)

end Sheet

end StylePrune
