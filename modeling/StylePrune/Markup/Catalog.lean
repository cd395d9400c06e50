import StylePrune.Text.Occurrence

/-!
# Catalogs of preserved names

Classes, tags and selectors that are kept whatever a page contains: state classes that
scripts toggle and structural markup.
-/

namespace StylePrune

/-- Names and selectors that are never removed. -/
structure Catalog where
  /-- Classes that count as used. -/
  classes : List String
  /-- Tags that count as used. -/
  tags : List String
  /-- A selector that contains one of these texts is kept. -/
  pseudo : List String
  /-- A selector equal to one of these is kept. -/
  critical : List String
  deriving BEq, DecidableEq, Repr

namespace Catalog

def structural : List String :=
  ["html", "body", "*", ":root"]

/-- The classes, tags and states that themes and scripts rely on. -/
def full : Catalog where
  classes := [
    "current-menu-item", "active", "current", "selected", "hover", "focus", "visited",
    "disabled", "enabled", "checked", "first", "last", "odd", "even", "visible", "hidden",
    "collapsed", "expanded", "dropdown", "menu-item", "sub-menu", "submenu", "sticky", "fixed",
    "absolute", "relative", "wp-", "menu-", "post-", "page-", "widget-", "sidebar-", "comment-",
    "header-", "footer-", "nav-"]
  tags := [
    "html", "body", "div", "span", "p", "a", "img", "button", "input", "form", "header",
    "footer", "nav", "main", "article", "section", "aside", "ul", "ol", "li", "table", "tr",
    "td", "th"]
  pseudo := [
    ":hover", ":focus", ":active", ":visited", ":disabled", ":enabled", ":checked",
    ":first-child", ":last-child", ":nth-child", ":not", ":before", ":after"]
  critical := structural

def minimal : Catalog :=
  ⟨[], [], [], structural⟩

instance : Inhabited Catalog :=
  ⟨full⟩

def hasPreservedPseudo (catalog : Catalog) (selector : String) : Bool :=
  catalog.pseudo.any fun p => Text.occursIn p.toList selector.toList

def isCritical (catalog : Catalog) (selector : String) : Bool :=
  catalog.critical.any (· == selector)

end Catalog

end StylePrune
