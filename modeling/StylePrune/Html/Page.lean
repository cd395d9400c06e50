import StylePrune.Html.Lexer
import StylePrune.Html.Rule.Foreign
import StylePrune.Html.Rule.Select
import StylePrune.Html.Rule.Table

/-!
# Used markup of a page

The tags, classes and ids of every element that a browser creates for a page.
-/

namespace StylePrune

namespace Html

namespace Builder

def ruleOf (mode : Mode) (b : Builder) (token : Token) : Outcome :=
  match mode with
  | .initial => b.initialRule token
  | .beforeHtml => b.beforeHtmlRule token
  | .beforeHead => b.beforeHeadRule token
  | .inHead => b.inHeadRule token
  | .afterHead => b.afterHeadRule token
  | .inBody => b.inBodyRule token
  | .text => b.textRule token
  | .inTable => b.inTableRule token
  | .inTableText => b.inTableTextRule token
  | .inCaption => b.inCaptionRule token
  | .inColumnGroup => b.inColumnGroupRule token
  | .inTableBody => b.inTableBodyRule token
  | .inRow => b.inRowRule token
  | .inCell => b.inCellRule token
  | .inSelect => b.inSelectRule token
  | .inSelectInTable => b.inSelectInTableRule token
  | .inTemplate => b.inTemplateRule token
  | .afterBody => b.afterBodyRule token
  | .inFrameset => b.inFramesetRule token
  | .afterFrameset => b.afterFramesetRule token
  | .afterAfterBody => b.afterAfterBodyRule token
  | .afterAfterFrameset => b.afterAfterFramesetRule token

/-- The rule that comes first for a token. -/
def firstRule (b : Builder) (token : Token) : Outcome :=
  if b.isForeign token then b.foreignRule token else ruleOf b.mode b token

/-- Follows the rules for a token, at most `fuel` of them. -/
def follow (token : Token) : Nat → Outcome → Builder
  | _, .done b => b
  | 0, .again b => b
  | 0, .use _ b => b
  | fuel + 1, .again b => follow token fuel (b.firstRule token)
  | fuel + 1, .use mode b => follow token fuel (ruleOf mode b token)

/-- The state after a token.  No token takes more rules than this for each open element. -/
def process (b : Builder) (token : Token) : Builder :=
  follow token (8 * (b.stack.length + b.templateModes.length) + 32) (b.firstRule token)

/-- The next token, by the content that is expected. -/
def readToken (b : Builder) (s : List Char) : Token × List Char :=
  if b.plaintext then (.endOfFile, [])
  else
    match b.content, b.stack with
    | some content, e :: _ => readContent content e.name.name s
    | _, _ => nextToken b.currentForeign s

/-- The state at the end of a page; every token but the last takes a character. -/
def run (b : Builder) (s : List Char) : Nat → Builder
  | 0 => b
  | fuel + 1 =>
      let (token, rest) := b.readToken s
      let b := { b with content := none }.process token
      if token = .endOfFile then b else run b rest fuel

end Builder

def usedMarkup (page : String) : Profile :=
  let text := normalizeLines (dropMark page.toList)
  (Builder.start.run text (text.length + 1)).recorder.finish

end Html

end StylePrune
